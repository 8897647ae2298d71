import Xiu.StreamHub.Effects

/-! What holds in every run of the hub: every stream has a task of its own; and the subscription that
the hub waits for is the last event in the channel of its task as long as it has no answer, and no
channel holds another one. -/

namespace Xiu.StreamHub

namespace StreamsHub

open ProofKit

/-! ### Tasks -/

/-- Every stream has a task of its own. -/
structure Distinct (hub : StreamsHub) : Prop where
  bounded : ∀ identifier j, hub.streams.lookup identifier = some j → j < hub.tasks.length
  injective : ∀ a b j, hub.streams.lookup a = some j → hub.streams.lookup b = some j → a = b

theorem Distinct.set {hub hub' : StreamsHub} (h : Distinct hub) {j : Nat} {t' : StreamTask}
    (hStreams : hub'.streams = hub.streams) (hTasks : hub'.tasks = hub.tasks.set j t') :
    Distinct hub' := by
  refine ⟨?_, by rw [hStreams]; exact h.injective⟩
  rw [hStreams, hTasks, List.length_set]
  exact h.bounded

theorem Distinct.forwards {hub hub' : StreamsHub} (h : Distinct hub)
    (hForwards : Forwards hub hub') : Distinct hub' := by
  refine ⟨?_, by rw [hForwards.streams]; exact h.injective⟩
  rw [hForwards.streams, hForwards.length]
  exact h.bounded

/-- A stream after one has been opened is the new one, with the new task, or an old one. -/
theorem Distinct.lookup_opens {hub hub' : StreamsHub} (h : Distinct hub) {listened : Bool}
    {identifier other : StreamIdentifier} {info : PublisherInfo} {j : Nat}
    (hOpens : Opens hub listened identifier info hub')
    (hLookup : hub'.streams.lookup other = some j) :
    (other = identifier ∧ j = hub.tasks.length) ∨
      (other ≠ identifier ∧ hub.streams.lookup other = some j ∧ j < hub.tasks.length) := by
  rw [hOpens.streams] at hLookup
  by_cases hOther : other = identifier
  · subst hOther
    rw [AList.lookup_insert] at hLookup
    exact .inl ⟨rfl, (Option.some.inj hLookup).symm⟩
  · rw [AList.lookup_insert_ne hOther] at hLookup
    exact .inr ⟨hOther, hLookup, h.bounded other j hLookup⟩

theorem Distinct.opens {hub hub' : StreamsHub} (h : Distinct hub) {listened : Bool}
    {identifier : StreamIdentifier} {info : PublisherInfo}
    (hOpens : Opens hub listened identifier info hub') : Distinct hub' := by
  refine ⟨fun other j hLookup => ?_, fun a b j hA hB => ?_⟩
  · rw [hOpens.tasks, List.length_append, List.length_singleton]
    rcases h.lookup_opens hOpens hLookup with ⟨-, rfl⟩ | ⟨-, -, hLt⟩ <;> omega
  · rcases h.lookup_opens hOpens hA with ⟨rfl, hj⟩ | ⟨-, hOldA, hLtA⟩ <;>
      rcases h.lookup_opens hOpens hB with ⟨rfl, hj'⟩ | ⟨-, hOldB, hLtB⟩
    · rfl
    · omega
    · omega
    · exact h.injective a b j hOldA hOldB

/-- A stream after one has been removed is another one that was there. -/
theorem Removes.lookup {hub hub' : StreamsHub} {identifier other : StreamIdentifier} {j : Nat}
    (hRemoves : Removes hub identifier hub') (hLookup : hub'.streams.lookup other = some j) :
    other ≠ identifier ∧ hub.streams.lookup other = some j := by
  rw [hRemoves.streams] at hLookup
  by_cases hne : other = identifier
  · subst hne
    rw [AList.lookup_erase] at hLookup
    cases hLookup
  · rw [AList.lookup_erase_ne hne] at hLookup
    exact ⟨hne, hLookup⟩

theorem Distinct.removes {hub hub' : StreamsHub} (h : Distinct hub) {identifier : StreamIdentifier}
    (hRemoves : Removes hub identifier hub') : Distinct hub' := by
  obtain ⟨k, t, -, -, -, hTasks⟩ := hRemoves.tasks
  refine ⟨fun other j hOther => ?_, fun a b j hA hB => ?_⟩
  · rw [hTasks, List.length_set]
    exact h.bounded other j (hRemoves.lookup hOther).2
  · exact h.injective a b j (hRemoves.lookup hA).2 (hRemoves.lookup hB).2

theorem Distinct.conclude {hub : StreamsHub} (h : Distinct hub) (identifier : StreamIdentifier)
    (info : SubscriberInfo) (answer : Except StreamHubErrorValue Unit) :
    Distinct (hub.conclude identifier info answer) := by
  constructor
  · rw [streams_conclude, tasks_conclude]
    exact h.bounded
  · rw [streams_conclude]
    exact h.injective

theorem Distinct.step {hub hub' : StreamsHub} {move : Move} (h : Distinct hub)
    (hStep : hub.step move = some hub') : Distinct hub' := by
  cases move with
  | post event =>
    cases hStep
    exact ⟨h.bounded, h.injective⟩
  | take event listened =>
    obtain ⟨rest, hWaiting, -, rfl⟩ := step_take hStep
    have hTaken : Distinct { hub with hubEvents := rest } := ⟨h.bounded, h.injective⟩
    have hIdle : Idle ({ hub with hubEvents := rest } : StreamsHub).waiting := by
      simp [Idle, hWaiting]
    rcases handle_cases { hub with hubEvents := rest } listened event hIdle with
      ⟨identifier, info, -, hOpens⟩ | ⟨identifier, info, -, hRemoves⟩ |
      ⟨identifier, info, -, hSubscribes⟩ | ⟨hForwards, -⟩
    · exact hTaken.opens hOpens
    · exact hTaken.removes hRemoves
    · obtain ⟨k, t, sender, -, -, -, hTasks, -⟩ := hSubscribes.tasks
      exact hTaken.set hSubscribes.streams hTasks
    · exact hTaken.forwards hForwards
  | serve k event prior =>
    obtain ⟨t, rest, -, -, -, rfl⟩ := step_serve hStep
    exact h.set (streams_serve hub k _ event prior) (tasks_serve hub k _ event prior)
  | close k =>
    obtain ⟨t, -, -, rfl⟩ := step_close hStep
    exact h.set (streams_close hub k t) (tasks_close hub k t)
  | resume =>
    rcases step_resume hStep with ⟨k, identifier, info, answer, -, rfl⟩ | ⟨rfl, -⟩
    · exact h.conclude identifier info answer
    · exact ⟨h.bounded, h.injective⟩

theorem new_distinct (rtmpPush rtmpRemuxer rtmpPull hls : Bool) :
    Distinct (new rtmpPush rtmpRemuxer rtmpPull hls) := by
  constructor
  · intro identifier j hLookup
    cases hLookup
  · intro a b j hA
    cases hA

/-! ### Subscriptions in the channels -/

def NoSubscription (events : List TransceiverEvent) : Prop :=
  ∀ sender info, .subscribe sender info ∉ events

/-- The only subscription in the channels is the one that the hub waits for, and the hub keeps the
stream meanwhile. -/
structure Pending (hub : StreamsHub) : Prop where
  queued : ∀ k t, hub.tasks[k]? = some t → NoSubscription t.events ∨
    ∃ identifier info sender before,
      hub.waiting = some (.subscription k identifier info none) ∧
      t.events = before ++ [.subscribe sender info] ∧ NoSubscription before
  stream : ∀ k identifier info answer,
    hub.waiting = some (.subscription k identifier info answer) →
    hub.streams.lookup identifier = some k

theorem Pending.noSubscription {hub : StreamsHub} (h : Pending hub)
    (hWaiting : ∀ k identifier info, hub.waiting ≠ some (.subscription k identifier info none))
    {k : Nat} {t : StreamTask} (hTask : hub.tasks[k]? = some t) : NoSubscription t.events := by
  rcases h.queued k t hTask with hNone | ⟨identifier, info, sender, before, hSome, -, -⟩
  · exact hNone
  · exact absurd hSome (hWaiting k identifier info)

theorem NoSubscription.append {events events' : List TransceiverEvent} (h : NoSubscription events)
    (h' : NoSubscription events') : NoSubscription (events ++ events') := by
  intro sender info hMem
  rcases List.mem_append.mp hMem with hMem | hMem
  · exact h sender info hMem
  · exact h' sender info hMem

theorem NoSubscription.of_passing {events : List TransceiverEvent}
    (h : ∀ e ∈ events, Passing e) : NoSubscription events :=
  fun sender info hMem => h (.subscribe sender info) hMem

theorem NoSubscription.tail {event : TransceiverEvent} {events : List TransceiverEvent}
    (h : NoSubscription (event :: events)) : NoSubscription events :=
  fun sender info hMem => h sender info (List.mem_cons_of_mem event hMem)

/-! ### Waiting -/

/-- A task that takes an event other than a subscription leaves a subscription that the hub waits for
as it is. -/
theorem waiting_serve {hub : StreamsHub} {k : Nat} {t : StreamTask} {event : TransceiverEvent}
    {prior : Except StreamHubErrorValue Unit}
    (hEvent : ∀ sender info, event ≠ .subscribe sender info) :
    (hub.serve k t event prior).waiting = hub.waiting ∨
      Idle hub.waiting ∧ Idle (hub.serve k t event prior).waiting := by
  simp only [serve]
  cases hTurn : t.transceiver.receiveEvent prior event with
  | next transceiver =>
    cases event with
    | subscribe sender info => exact absurd rfl (hEvent sender info)
    | api sender uuid =>
      simp only [reply]
      split
      · rename_i receiver missing hWaiting
        right
        refine ⟨by simp [Idle, hWaiting], ?_⟩
        split <;> simp [Idle, hWaiting]
      · exact .inl rfl
    | unSubscribe info => exact .inl rfl
    | unPublish => exact .inl rfl
    | request => exact .inl rfl
  | leave transceiver =>
    cases event with
    | subscribe sender info => exact absurd rfl (hEvent sender info)
    | unSubscribe info => exact .inl rfl
    | unPublish => exact .inl rfl
    | api sender uuid => exact .inl rfl
    | request => exact .inl rfl
  | panic transceiver => exact .inl rfl

/-- A task that takes a subscription answers it. -/
theorem waiting_serve_subscribe {hub : StreamsHub} {k : Nat} {t : StreamTask} {sender : DataSender}
    {info : SubscriberInfo} {prior : Except StreamHubErrorValue Unit} {identifier : StreamIdentifier}
    (h : hub.waiting = some (.subscription k identifier info none)) :
    ∃ result, (hub.serve k t (.subscribe sender info) prior).waiting =
        some (.subscription k identifier info (some result)) ∧
      (result = .ok () ↔ prior = .ok ()) := by
  cases prior with
  | ok u =>
    refine ⟨.ok (), ?_, by simp⟩
    simp [serve, StreamDataTransceiver.receiveEvent, reply, answer, h]
  | error e =>
    refine ⟨.error .recvError, ?_, by simp⟩
    simp [serve, StreamDataTransceiver.receiveEvent, answer, h]

theorem waiting_close (hub : StreamsHub) (k : Nat) (t : StreamTask) :
    (∃ identifier info, hub.waiting = some (.subscription k identifier info none) ∧
      (hub.close k t).waiting =
        some (.subscription k identifier info (some (.error .recvError)))) ∨
    ((∀ identifier info, hub.waiting ≠ some (.subscription k identifier info none)) ∧
      (hub.close k t).waiting = hub.waiting) := by
  simp only [close]
  split
  · rename_i waited identifier info hWaiting
    split
    · rename_i hWaited
      subst hWaited
      exact .inl ⟨identifier, info, hWaiting, by simp [answer, hWaiting]⟩
    · rename_i hWaited
      refine .inr ⟨fun other info' hSome => ?_, rfl⟩
      rw [hWaiting] at hSome
      cases hSome
      exact hWaited rfl
  · rename_i hWaiting
    exact .inr ⟨fun identifier info hSome => hWaiting k identifier info hSome, rfl⟩

/-! ### One step -/

theorem getElem?_set_cases {tasks : List StreamTask} {k j : Nat} {t t' : StreamTask}
    (h : (tasks.set k t')[j]? = some t) : (j = k ∧ t = t') ∨ (j ≠ k ∧ tasks[j]? = some t) := by
  by_cases hj : k = j
  · subst hj
    by_cases hk : k < tasks.length
    · rw [List.getElem?_set_self hk] at h
      exact .inl ⟨rfl, (Option.some.inj h).symm⟩
    · rw [List.getElem?_eq_none (by simpa using hk)] at h
      cases h
  · rw [List.getElem?_set_ne hj] at h
    exact .inr ⟨fun hEq => hj hEq.symm, h⟩

theorem Pending.handle {hub : StreamsHub} (h : Pending hub) (hWaiting : hub.waiting = none)
    (listened : Bool) (event : StreamHubEvent) : Pending (hub.handle listened event) := by
  have hNone : ∀ (k : Nat) (t : StreamTask), hub.tasks[k]? = some t → NoSubscription t.events :=
    fun k t hTask => h.noSubscription (by simp [hWaiting]) hTask
  rcases handle_cases hub listened event (by simp [Idle, hWaiting]) with
    ⟨identifier, info, -, hOpens⟩ | ⟨identifier, info, -, hRemoves⟩ |
    ⟨identifier, info, -, hSubscribes⟩ | ⟨hForwards, hIdle⟩
  · refine ⟨fun k t hTask => .inl ?_, by simp [hOpens.waiting, hWaiting]⟩
    rw [hOpens.tasks] at hTask
    rcases List.mem_append.mp (List.mem_of_getElem? hTask) with hOld | hNew
    · obtain ⟨j, hj, rfl⟩ := List.mem_iff_getElem.mp hOld
      exact hNone j _ (List.getElem?_eq_getElem hj)
    · rw [List.mem_singleton.mp hNew]
      simp [NoSubscription]
  · obtain ⟨k0, t0, -, hTask0, -, hTasks⟩ := hRemoves.tasks
    refine ⟨fun k t hTask => .inl ?_, by simp [hRemoves.waiting, hWaiting]⟩
    rw [hTasks] at hTask
    rcases getElem?_set_cases hTask with ⟨-, rfl⟩ | ⟨-, hTask⟩
    · exact (hNone k0 t0 hTask0).append (by simp [NoSubscription])
    · exact hNone k t hTask
  · obtain ⟨k0, t0, sender, hLookup, hTask0, -, hTasks, hAfter⟩ := hSubscribes.tasks
    refine ⟨fun k t hTask => ?_, fun k other info' answer hSome => ?_⟩
    · rw [hTasks] at hTask
      rcases getElem?_set_cases hTask with ⟨rfl, rfl⟩ | ⟨-, hTask⟩
      · exact .inr ⟨identifier, info, sender, t0.events, hAfter, rfl, hNone k t0 hTask0⟩
      · exact .inl (hNone k t hTask)
    · rw [hAfter] at hSome
      cases hSome
      rw [hSubscribes.streams, hLookup]
  · refine ⟨fun k t hTask => .inl ?_, fun k identifier info answer hSome =>
      absurd hSome (hIdle k identifier info answer)⟩
    obtain ⟨es, hPassing, hTask'⟩ := hForwards.tasks k
    rw [hTask'] at hTask
    obtain ⟨t0, hTask0, rfl⟩ := Option.map_eq_some_iff.mp hTask
    exact (hNone k t0 hTask0).append (.of_passing hPassing)

theorem events_served (t : StreamTask) (event : TransceiverEvent)
    (prior : Except StreamHubErrorValue Unit) : (served t event prior).events = t.events := by
  unfold served
  split <;> rfl

/-- A subscription at the head of a channel is all that the channel holds, and the hub waits for it. -/
theorem Pending.head {hub : StreamsHub} (h : Pending hub) {k : Nat} {t : StreamTask}
    {sender : DataSender} {info : SubscriberInfo} {rest : List TransceiverEvent}
    (hTask : hub.tasks[k]? = some t) (hEvents : t.events = .subscribe sender info :: rest) :
    rest = [] ∧ ∃ identifier, hub.waiting = some (.subscription k identifier info none) := by
  rcases h.queued k t hTask with hNone | ⟨identifier, info', sender', before, hWaiting, hLast, hBefore⟩
  · exact absurd (hEvents ▸ List.mem_cons_self) (hNone sender info)
  · rw [hEvents] at hLast
    cases before with
    | nil =>
      simp only [List.nil_append, List.cons.injEq, TransceiverEvent.subscribe.injEq] at hLast
      obtain ⟨⟨-, rfl⟩, rfl⟩ := hLast
      exact ⟨rfl, identifier, hWaiting⟩
    | cons first before =>
      rw [List.cons_append] at hLast
      exact absurd ((List.cons.inj hLast).1 ▸ List.mem_cons_self) (hBefore sender info)

theorem Pending.serve {hub : StreamsHub} (h : Pending hub) {k : Nat} {t : StreamTask}
    {event : TransceiverEvent} {rest : List TransceiverEvent}
    {prior : Except StreamHubErrorValue Unit} (hTask : hub.tasks[k]? = some t)
    (hEvents : t.events = event :: rest) :
    Pending (hub.serve k { t with events := rest } event prior) := by
  by_cases hEvent : ∃ sender info, event = .subscribe sender info
  · obtain ⟨sender, info, rfl⟩ := hEvent
    obtain ⟨rfl, identifier, hWaiting⟩ := h.head hTask hEvents
    obtain ⟨result, hAfter, -⟩ := @waiting_serve_subscribe hub k { t with events := [] } sender info
      prior identifier hWaiting
    refine ⟨fun j t' hTask' => .inl ?_, fun j other info' answer hSome => ?_⟩
    · rw [tasks_serve] at hTask'
      rcases getElem?_set_cases hTask' with ⟨-, rfl⟩ | ⟨hj, hTask'⟩
      · rw [events_served]
        simp [NoSubscription]
      · rcases h.queued j t' hTask' with hNone | ⟨other, info', -, -, hOther, -, -⟩
        · exact hNone
        · rw [hWaiting] at hOther
          cases hOther
          exact absurd rfl hj
    · rw [hAfter] at hSome
      cases hSome
      rw [streams_serve]
      exact h.stream k identifier info none hWaiting
  · have hNot : ∀ sender info, event ≠ .subscribe sender info := fun sender info hEq =>
      hEvent ⟨sender, info, hEq⟩
    -- the hub goes on waiting for the same subscription, if for any
    have hSame : ∀ j identifier info answer,
        (hub.serve k { t with events := rest } event prior).waiting =
          some (.subscription j identifier info answer) ↔
        hub.waiting = some (.subscription j identifier info answer) := by
      intro j identifier info answer
      rcases @waiting_serve hub k { t with events := rest } event prior hNot with hSame | ⟨hA, hB⟩
      · rw [hSame]
      · exact iff_of_false (hB j identifier info answer) (hA j identifier info answer)
    refine ⟨fun j t' hTask' => ?_, fun j identifier info answer hSome => ?_⟩
    · rw [tasks_serve] at hTask'
      rcases getElem?_set_cases hTask' with ⟨rfl, rfl⟩ | ⟨-, hTask'⟩
      · rw [events_served]
        rcases h.queued j t hTask with hNone | ⟨identifier, info, sender, before, hWaiting, hLast, hBefore⟩
        · rw [hEvents] at hNone
          exact .inl hNone.tail
        · cases before with
          | nil =>
            rw [hEvents] at hLast
            exact absurd (List.cons.inj hLast).1 (hNot sender info)
          | cons first before =>
            rw [hEvents, List.cons_append] at hLast
            exact .inr ⟨identifier, info, sender, before, (hSame j identifier info none).mpr hWaiting,
              (List.cons.inj hLast).2, hBefore.tail⟩
      · rcases h.queued j t' hTask' with hNone | ⟨identifier, info, sender, before, hWaiting, hRest⟩
        · exact .inl hNone
        · exact .inr ⟨identifier, info, sender, before, (hSame j identifier info none).mpr hWaiting,
            hRest⟩
    · rw [streams_serve]
      exact h.stream j identifier info answer ((hSame j identifier info answer).mp hSome)

theorem Pending.close {hub : StreamsHub} (h : Pending hub) (k : Nat) (t : StreamTask) :
    Pending (hub.close k t) := by
  rcases waiting_close hub k t with ⟨identifier, info, hWaiting, hAfter⟩ | ⟨hNot, hSame⟩
  · refine ⟨fun j t' hTask' => .inl ?_, fun j other info' answer hSome => ?_⟩
    · rw [tasks_close] at hTask'
      rcases getElem?_set_cases hTask' with ⟨-, rfl⟩ | ⟨hj, hTask'⟩
      · simp [NoSubscription]
      · rcases h.queued j t' hTask' with hNone | ⟨other, info', -, -, hOther, -, -⟩
        · exact hNone
        · rw [hWaiting] at hOther
          cases hOther
          exact absurd rfl hj
    · rw [hAfter] at hSome
      cases hSome
      rw [streams_close]
      exact h.stream k identifier info none hWaiting
  · refine ⟨fun j t' hTask' => ?_, fun j other info answer hSome => ?_⟩
    · rw [tasks_close] at hTask'
      rcases getElem?_set_cases hTask' with ⟨-, rfl⟩ | ⟨-, hTask'⟩
      · exact .inl (by simp [NoSubscription])
      · rw [hSame]
        exact h.queued j t' hTask'
    · rw [hSame] at hSome
      rw [streams_close]
      exact h.stream j other info answer hSome

theorem Pending.step {hub hub' : StreamsHub} {move : Move} (h : Pending hub)
    (hStep : hub.step move = some hub') : Pending hub' := by
  cases move with
  | post event =>
    cases hStep
    exact ⟨h.queued, h.stream⟩
  | take event listened =>
    obtain ⟨rest, hWaiting, -, rfl⟩ := step_take hStep
    have hTaken : Pending { hub with hubEvents := rest } := ⟨h.queued, h.stream⟩
    exact hTaken.handle hWaiting listened event
  | serve k event prior =>
    obtain ⟨t, rest, hTask, -, hEvents, rfl⟩ := step_serve hStep
    exact h.serve hTask hEvents
  | close k =>
    obtain ⟨t, -, -, rfl⟩ := step_close hStep
    exact h.close k t
  | resume =>
    rcases step_resume hStep with ⟨k, identifier, info, answer, hWaiting, rfl⟩ | ⟨rfl, hIdle⟩
    · have hAfter : (hub.conclude identifier info answer).waiting = none := by
        cases answer <;> rfl
      refine ⟨fun j t hTask => .inl ?_, by simp [hAfter]⟩
      rw [tasks_conclude] at hTask
      exact h.noSubscription (by simp [hWaiting]) hTask
    · refine ⟨fun j t hTask => .inl ?_, by simp⟩
      exact h.noSubscription (fun k identifier info => hIdle k identifier info none) hTask

theorem new_pending (rtmpPush rtmpRemuxer rtmpPull hls : Bool) :
    Pending (new rtmpPush rtmpRemuxer rtmpPull hls) := by
  constructor
  · intro k t hTask
    cases hTask
  · intro k identifier info answer hSome
    cases hSome

end StreamsHub

end Xiu.StreamHub
