import Xiu.StreamHub.Hub

/-! What the handling of an event does to the streams, the tasks and the table of the hub: it opens a
stream, removes one, begins a subscription, or only passes events on. -/

namespace Xiu.StreamHub

namespace StreamsHub

/-- An event that neither adds a subscriber nor ends a task. -/
def Passing : TransceiverEvent → Prop
  | .subscribe _ _ | .unPublish => False
  | _ => True

/-- Nothing happens but that tasks get passing events. -/
structure Forwards (hub hub' : StreamsHub) : Prop where
  streams : hub'.streams = hub.streams
  unPubSubEvents : hub'.unPubSubEvents = hub.unPubSubEvents
  tasks : ∀ k : Nat, ∃ es : List TransceiverEvent, (∀ e ∈ es, Passing e) ∧
    hub'.tasks[k]? = hub.tasks[k]?.map fun t => { t with events := t.events ++ es }
  length : hub'.tasks.length = hub.tasks.length

/-- No subscription has begun. -/
def Idle (waiting : Option Waiting) : Prop :=
  ∀ task identifier info answer, waiting ≠ some (.subscription task identifier info answer)

/-- A stream has been opened, with an entry to kick its publisher off unless nobody could be told. -/
structure Opens (hub : StreamsHub) (listened : Bool) (identifier : StreamIdentifier)
    (info : PublisherInfo) (hub' : StreamsHub) : Prop where
  absent : hub.streams.lookup identifier = none
  streams : hub'.streams = hub.streams.insert identifier hub.tasks.length
  tasks : hub'.tasks = hub.tasks ++ [⟨info, .new, [], .receiving⟩]
  waiting : hub'.waiting = hub.waiting
  unPubSubEvents : hub'.unPubSubEvents =
    if (hub.rtmpPushEnabled || hub.hlsEnabled || hub.rtmpRemuxerEnabled) && !listened then
      hub.unPubSubEvents
    else hub.unPubSubEvents.insert info.id (.unPublish identifier info)

/-- A stream has been removed and its task has been told. -/
structure Removes (hub : StreamsHub) (identifier : StreamIdentifier) (hub' : StreamsHub) : Prop where
  streams : hub'.streams = hub.streams.erase identifier
  unPubSubEvents : hub'.unPubSubEvents = hub.unPubSubEvents
  waiting : hub'.waiting = hub.waiting
  tasks : ∃ k t, hub.streams.lookup identifier = some k ∧ hub.tasks[k]? = some t ∧ t.phase ≠ .gone ∧
    hub'.tasks = hub.tasks.set k { t with events := t.events ++ [.unPublish] }

/-- A subscription has been passed to the task of its stream. -/
structure Subscribes (hub : StreamsHub) (identifier : StreamIdentifier) (info : SubscriberInfo)
    (hub' : StreamsHub) : Prop where
  streams : hub'.streams = hub.streams
  unPubSubEvents : hub'.unPubSubEvents = hub.unPubSubEvents
  tasks : ∃ k t sender, hub.streams.lookup identifier = some k ∧ hub.tasks[k]? = some t ∧
    t.phase ≠ .gone ∧
    hub'.tasks = hub.tasks.set k { t with events := t.events ++ [.subscribe sender info] } ∧
    hub'.waiting = some (.subscription k identifier info none)

/-! ### Passing events on -/

theorem Forwards.of_eq {hub hub' : StreamsHub} (hStreams : hub'.streams = hub.streams)
    (hTable : hub'.unPubSubEvents = hub.unPubSubEvents) (hTasks : hub'.tasks = hub.tasks) :
    Forwards hub hub' := by
  refine ⟨hStreams, hTable, fun k => ⟨[], by simp, ?_⟩, by rw [hTasks]⟩
  rw [hTasks]
  cases hub.tasks[k]? <;> simp

theorem Forwards.trans {hub hub1 hub2 : StreamsHub} (h1 : Forwards hub hub1)
    (h2 : Forwards hub1 hub2) : Forwards hub hub2 := by
  refine ⟨h2.streams.trans h1.streams, h2.unPubSubEvents.trans h1.unPubSubEvents, fun k => ?_,
    h2.length.trans h1.length⟩
  obtain ⟨es1, hPassing1, hTasks1⟩ := h1.tasks k
  obtain ⟨es2, hPassing2, hTasks2⟩ := h2.tasks k
  refine ⟨es1 ++ es2, fun e he => ?_, ?_⟩
  · rcases List.mem_append.mp he with he | he
    · exact hPassing1 e he
    · exact hPassing2 e he
  · rw [hTasks2, hTasks1]
    cases hub.tasks[k]? <;> simp

theorem sendTo_eq_some {hub hub' : StreamsHub} {k : Nat} {event : TransceiverEvent} :
    hub.sendTo k event = some hub' ↔ ∃ t, hub.tasks[k]? = some t ∧ t.phase ≠ .gone ∧
      hub' = { hub with tasks := hub.tasks.set k { t with events := t.events ++ [event] } } := by
  unfold sendTo
  constructor
  · intro h
    split at h
    · cases h
    · rename_i t hTask
      split at h
      · cases h
      · rename_i hPhase
        exact ⟨t, hTask, hPhase, (Option.some.inj h).symm⟩
  · rintro ⟨t, hTask, hPhase, rfl⟩
    rw [hTask]
    cases hCase : t.phase with
    | gone => exact absurd hCase hPhase
    | receiving => simp [hCase]
    | left => simp [hCase]

theorem sendTo_forwards {hub hub' : StreamsHub} {k : Nat} {event : TransceiverEvent}
    (hPassing : Passing event) (h : hub.sendTo k event = some hub') :
    Forwards hub hub' ∧ hub'.waiting = hub.waiting := by
  obtain ⟨t, hTask, -, rfl⟩ := sendTo_eq_some.mp h
  refine ⟨⟨rfl, rfl, fun j => ?_, List.length_set⟩, rfl⟩
  by_cases hj : k = j
  · subst hj
    have hLt := (List.getElem?_eq_some_iff.mp hTask).1
    refine ⟨[event], by simpa using hPassing, ?_⟩
    rw [List.getElem?_set_self hLt, hTask]
    rfl
  · refine ⟨[], by simp, ?_⟩
    rw [List.getElem?_set_ne hj]
    cases hub.tasks[j]? <;> simp

theorem sendApi_forwards (sender : Channel) (uuid : Option Uuid) (ks : List Nat)
    (hub : StreamsHub) : Forwards hub (hub.sendApi sender uuid ks).1 ∧
      (hub.sendApi sender uuid ks).1.waiting = hub.waiting := by
  induction ks generalizing hub with
  | nil => exact ⟨.of_eq rfl rfl rfl, rfl⟩
  | cons k ks ih =>
    simp only [sendApi]
    split
    · rename_i hub1 hSend
      obtain ⟨hFirst, hWaiting⟩ := sendTo_forwards (by trivial) hSend
      exact ⟨hFirst.trans (ih hub1).1, (ih hub1).2.trans hWaiting⟩
    · exact ⟨.of_eq rfl rfl rfl, rfl⟩

theorem broadcast_eq_some {hub hub' : StreamsHub} {listened : Bool} {event : BroadcastEvent}
    (h : hub.broadcast listened event = some hub') :
    listened = true ∧ hub' = { hub with broadcasts := hub.broadcasts ++ [event] } := by
  unfold broadcast at h
  split at h
  · rename_i hListened
    exact ⟨hListened, (Option.some.inj h).symm⟩
  · cases h

theorem broadcast_eq_none {hub : StreamsHub} {listened : Bool} {event : BroadcastEvent}
    (h : hub.broadcast listened event = none) : listened = false := by
  unfold broadcast at h
  split at h
  · cases h
  · rename_i hListened
    simpa using hListened

theorem apiRelay_forwards (hub : StreamsHub) (listened : Bool) (relayType : RelayType)
    (event : BroadcastEvent) (hIdle : Idle hub.waiting) :
    Forwards hub (hub.apiRelay listened relayType event).1 ∧
      Idle (hub.apiRelay listened relayType event).1.waiting := by
  cases relayType with
  | push => exact ⟨.of_eq rfl rfl rfl, by simp [apiRelay, Idle]⟩
  | pull =>
    simp only [apiRelay]
    split
    · rename_i hub1 hBroadcast
      obtain ⟨-, rfl⟩ := broadcast_eq_some hBroadcast
      exact ⟨.of_eq rfl rfl rfl, by simp [Idle]⟩
    · exact ⟨.of_eq rfl rfl rfl, hIdle⟩

theorem apiStatistic_forwards (hub : StreamsHub) (identifier : Option StreamIdentifier)
    (uuid : Option Uuid) (hIdle : Idle hub.waiting) :
    Forwards hub (hub.apiStatistic identifier uuid).1 ∧
      Idle (hub.apiStatistic identifier uuid).1.waiting := by
  unfold apiStatistic
  split
  · exact ⟨.of_eq rfl rfl rfl, hIdle⟩
  · obtain ⟨hForwards, hWaiting⟩ := sendApi_forwards hub.channels uuid (hub.asked identifier)
      { hub with channels := hub.channels + 1 }
    have hFirst : Forwards hub { hub with channels := hub.channels + 1 } := .of_eq rfl rfl rfl
    split
    · rename_i hub1 hSent
      rw [hSent] at hForwards
      exact ⟨(hFirst.trans hForwards).trans (.of_eq rfl rfl rfl), by simp [Idle]⟩
    · rename_i hub1 e hSent
      rw [hSent] at hForwards hWaiting
      exact ⟨hFirst.trans hForwards, hWaiting ▸ hIdle⟩

theorem unsubscribe_forwards (hub : StreamsHub) (identifier : StreamIdentifier)
    (info : SubscriberInfo) (hIdle : Idle hub.waiting) :
    Forwards hub (hub.unsubscribe identifier info).1 ∧
      Idle (hub.unsubscribe identifier info).1.waiting := by
  unfold unsubscribe
  split
  · split
    · rename_i hub1 hSend
      obtain ⟨hForwards, hWaiting⟩ := sendTo_forwards (by trivial) hSend
      exact ⟨hForwards, hWaiting ▸ hIdle⟩
    · exact ⟨.of_eq rfl rfl rfl, hIdle⟩
  · exact ⟨.of_eq rfl rfl rfl, hIdle⟩

theorem request_forwards (hub : StreamsHub) (identifier : StreamIdentifier)
    (hIdle : Idle hub.waiting) :
    Forwards hub (hub.request identifier).1 ∧ Idle (hub.request identifier).1.waiting := by
  unfold request
  split
  · split
    · rename_i hub1 hSend
      obtain ⟨hForwards, hWaiting⟩ := sendTo_forwards (by trivial) hSend
      exact ⟨hForwards, hWaiting ▸ hIdle⟩
    · exact ⟨.of_eq rfl rfl rfl, hIdle⟩
  · exact ⟨.of_eq rfl rfl rfl, hIdle⟩

theorem apiKickOffClient_forwards (hub : StreamsHub) (id : Uuid) (hIdle : Idle hub.waiting) :
    Forwards hub (hub.apiKickOffClient id) ∧ Idle (hub.apiKickOffClient id).waiting := by
  unfold apiKickOffClient
  split
  · exact ⟨.of_eq rfl rfl rfl, hIdle⟩
  · exact ⟨.of_eq rfl rfl rfl, hIdle⟩
  · exact ⟨.of_eq rfl rfl rfl, hIdle⟩

/-! ### Every event -/

theorem handle_publish (hub : StreamsHub) (listened : Bool) (identifier : StreamIdentifier)
    (info : PublisherInfo) :
    Opens hub listened identifier info (hub.handle listened (.publish identifier info)) ∨
      hub.handle listened (.publish identifier info) = hub := by
  simp only [handle, publish]
  split
  · rename_i hub1 hPublish
    left
    split at hPublish
    · cases hPublish
    · rename_i hAbsent
      split at hPublish
      · rename_i hEnabled
        split at hPublish
        · rename_i hub2 hBroadcast
          obtain ⟨rfl, rfl⟩ := broadcast_eq_some hBroadcast
          cases hPublish
          exact ⟨hAbsent, rfl, rfl, rfl, by simp⟩
        · cases hPublish
      · rename_i hEnabled
        cases hPublish
        exact ⟨hAbsent, rfl, rfl, rfl, by simp_all⟩
  · rename_i hub1 e hPublish
    split at hPublish
    · cases hPublish
      exact .inr rfl
    · rename_i hAbsent
      left
      split at hPublish
      · rename_i hEnabled
        split at hPublish
        · cases hPublish
        · rename_i hBroadcast
          cases hPublish
          exact ⟨hAbsent, rfl, rfl, rfl, by simp_all [broadcast_eq_none hBroadcast]⟩
      · cases hPublish

theorem handle_unPublish (hub : StreamsHub) (listened : Bool) (identifier : StreamIdentifier)
    (info : PublisherInfo) :
    Removes hub identifier (hub.handle listened (.unPublish identifier info)) ∨
      hub.handle listened (.unPublish identifier info) = hub := by
  simp only [handle, unpublish]
  split
  · rename_i k hLookup
    split
    · rename_i hub1 hSend
      obtain ⟨t, hTask, hPhase, rfl⟩ := sendTo_eq_some.mp hSend
      exact .inl ⟨rfl, rfl, rfl, k, t, hLookup, hTask, hPhase, rfl⟩
    · exact .inr rfl
  · exact .inr rfl

theorem handle_subscribe (hub : StreamsHub) (listened : Bool) (identifier : StreamIdentifier)
    (info : SubscriberInfo) (hIdle : Idle hub.waiting) :
    Subscribes hub identifier info (hub.handle listened (.subscribe identifier info)) ∨
      Forwards hub (hub.handle listened (.subscribe identifier info)) ∧
        Idle (hub.handle listened (.subscribe identifier info)).waiting := by
  simp only [handle, subscribe]
  split
  · rename_i k hLookup
    split
    · rename_i hub1 hSend
      obtain ⟨t, hTask, hPhase, rfl⟩ := sendTo_eq_some.mp hSend
      exact .inl ⟨rfl, rfl, k, t, hub.newSender info.subDataType, hLookup, hTask, hPhase, rfl, rfl⟩
    · exact .inr ⟨.of_eq rfl rfl rfl, hIdle⟩
  · right
    split
    · split
      · rename_i hub1 hBroadcast
        obtain ⟨-, rfl⟩ := broadcast_eq_some hBroadcast
        exact ⟨.of_eq rfl rfl rfl, hIdle⟩
      · exact ⟨.of_eq rfl rfl rfl, hIdle⟩
    · exact ⟨.of_eq rfl rfl rfl, hIdle⟩

/-- What an event that the hub takes can do. -/
theorem handle_cases (hub : StreamsHub) (listened : Bool) (event : StreamHubEvent)
    (hIdle : Idle hub.waiting) :
    (∃ identifier info, event = .publish identifier info ∧
      Opens hub listened identifier info (hub.handle listened event)) ∨
    (∃ identifier info, event = .unPublish identifier info ∧
      Removes hub identifier (hub.handle listened event)) ∨
    (∃ identifier info, event = .subscribe identifier info ∧
      Subscribes hub identifier info (hub.handle listened event)) ∨
    (Forwards hub (hub.handle listened event) ∧ Idle (hub.handle listened event).waiting) := by
  have hSame : Forwards hub hub := .of_eq rfl rfl rfl
  cases event with
  | publish identifier info =>
    rcases handle_publish hub listened identifier info with h | h
    · exact .inl ⟨identifier, info, rfl, h⟩
    · rw [h]
      exact .inr (.inr (.inr ⟨hSame, hIdle⟩))
  | unPublish identifier info =>
    rcases handle_unPublish hub listened identifier info with h | h
    · exact .inr (.inl ⟨identifier, info, rfl, h⟩)
    · rw [h]
      exact .inr (.inr (.inr ⟨hSame, hIdle⟩))
  | subscribe identifier info =>
    rcases handle_subscribe hub listened identifier info hIdle with h | h
    · exact .inr (.inr (.inl ⟨identifier, info, rfl, h⟩))
    · exact .inr (.inr (.inr h))
  | unSubscribe identifier info =>
    exact .inr (.inr (.inr (unsubscribe_forwards hub identifier info hIdle)))
  | apiStatistic topN identifier uuid =>
    exact .inr (.inr (.inr (apiStatistic_forwards hub identifier uuid hIdle)))
  | apiKickClient id => exact .inr (.inr (.inr (apiKickOffClient_forwards hub id hIdle)))
  | apiStartRelayStream id identifier serverAddress relayType =>
    exact .inr (.inr (.inr (apiRelay_forwards hub listened relayType _ hIdle)))
  | apiStopRelayStream id relayType =>
    exact .inr (.inr (.inr (apiRelay_forwards hub listened relayType _ hIdle)))
  | request identifier => exact .inr (.inr (.inr (request_forwards hub identifier hIdle)))
  | onHls identifier => exact .inr (.inr (.inr ⟨hSame, hIdle⟩))

/-! ### The tasks leave the tables of the hub alone -/

@[simp] theorem streams_answer (hub : StreamsHub) (result : Except StreamHubErrorValue Unit) :
    (hub.answer result).streams = hub.streams := by
  unfold answer
  split <;> rfl

@[simp] theorem unPubSubEvents_answer (hub : StreamsHub)
    (result : Except StreamHubErrorValue Unit) :
    (hub.answer result).unPubSubEvents = hub.unPubSubEvents := by
  unfold answer
  split <;> rfl

@[simp] theorem tasks_answer (hub : StreamsHub) (result : Except StreamHubErrorValue Unit) :
    (hub.answer result).tasks = hub.tasks := by
  unfold answer
  split <;> rfl

@[simp] theorem streams_reply (hub : StreamsHub) (event : TransceiverEvent) :
    (hub.reply event).streams = hub.streams := by
  unfold reply
  split
  · simp
  · split
    · split <;> rfl
    · rfl
  · rfl

@[simp] theorem unPubSubEvents_reply (hub : StreamsHub) (event : TransceiverEvent) :
    (hub.reply event).unPubSubEvents = hub.unPubSubEvents := by
  unfold reply
  split
  · simp
  · split
    · split <;> rfl
    · rfl
  · rfl

@[simp] theorem tasks_reply (hub : StreamsHub) (event : TransceiverEvent) :
    (hub.reply event).tasks = hub.tasks := by
  unfold reply
  split
  · simp
  · split
    · split <;> rfl
    · rfl
  · rfl

@[simp] theorem streams_serve (hub : StreamsHub) (k : Nat) (t : StreamTask)
    (event : TransceiverEvent) (prior : Except StreamHubErrorValue Unit) :
    (hub.serve k t event prior).streams = hub.streams := by
  unfold serve
  split
  · simp
  · simp only
    split <;> simp
  · rfl

@[simp] theorem unPubSubEvents_serve (hub : StreamsHub) (k : Nat) (t : StreamTask)
    (event : TransceiverEvent) (prior : Except StreamHubErrorValue Unit) :
    (hub.serve k t event prior).unPubSubEvents = hub.unPubSubEvents := by
  unfold serve
  split
  · simp
  · simp only
    split <;> simp
  · rfl

/-- A task after the event that it has taken. -/
def served (t : StreamTask) (event : TransceiverEvent) (prior : Except StreamHubErrorValue Unit) :
    StreamTask :=
  match t.transceiver.receiveEvent prior event with
  | .next transceiver => { t with transceiver }
  | .leave transceiver => { t with transceiver, phase := .left }
  | .panic transceiver => { t with transceiver, phase := .left }

theorem tasks_serve (hub : StreamsHub) (k : Nat) (t : StreamTask) (event : TransceiverEvent)
    (prior : Except StreamHubErrorValue Unit) :
    (hub.serve k t event prior).tasks = hub.tasks.set k (served t event prior) := by
  simp only [serve, served]
  cases hTurn : t.transceiver.receiveEvent prior event with
  | next transceiver => simp
  | leave transceiver =>
    simp only
    split <;> simp
  | panic transceiver => rfl

@[simp] theorem streams_close (hub : StreamsHub) (k : Nat) (t : StreamTask) :
    (hub.close k t).streams = hub.streams := by
  unfold close
  simp only
  split
  · split <;> simp
  · rfl

@[simp] theorem unPubSubEvents_close (hub : StreamsHub) (k : Nat) (t : StreamTask) :
    (hub.close k t).unPubSubEvents = hub.unPubSubEvents := by
  unfold close
  simp only
  split
  · split <;> simp
  · rfl

@[simp] theorem tasks_close (hub : StreamsHub) (k : Nat) (t : StreamTask) :
    (hub.close k t).tasks = hub.tasks.set k { t with events := [], phase := .gone } := by
  unfold close
  simp only
  split
  · split <;> simp
  · rfl

@[simp] theorem streams_conclude (hub : StreamsHub) (identifier : StreamIdentifier)
    (info : SubscriberInfo) (answer : Except StreamHubErrorValue Unit) :
    (hub.conclude identifier info answer).streams = hub.streams := by
  cases answer <;> rfl

@[simp] theorem tasks_conclude (hub : StreamsHub) (identifier : StreamIdentifier)
    (info : SubscriberInfo) (answer : Except StreamHubErrorValue Unit) :
    (hub.conclude identifier info answer).tasks = hub.tasks := by
  cases answer <;> rfl

end StreamsHub

end Xiu.StreamHub
