import Xiu.StreamHub.Accounts
import Xiu.StreamHub.Invariants

/-! That a stream stays usable, whatever its subscribers do, as long as no subscription fails to get
its prior data and no unsubscription comes when the count of subscribers is zero. -/

namespace Xiu.StreamHub

namespace StreamsHub

open ProofKit

/-- The task is in its loop and nothing in its channel ends it. -/
def Live (t : StreamTask) : Prop := t.phase = .receiving ∧ .unPublish ∉ t.events

/-- Every stream has a task of its own, and the task of the given number is in its loop if it has a
stream. -/
structure Serving (k : Nat) (hub : StreamsHub) : Prop extends Distinct hub where
  live : ∀ identifier, hub.streams.lookup identifier = some k →
    ∃ t, hub.tasks[k]? = some t ∧ Live t

/-- When the task takes a subscription, the prior data can be sent, and when it takes an
unsubscription, the count of subscribers is not zero. -/
def Sane (k : Nat) (hub : StreamsHub) : Move → Prop
  | .serve j (.subscribe _ _) prior => j = k → prior = .ok ()
  | .serve j (.unSubscribe _) _ =>
    j = k → ∀ t, hub.tasks[k]? = some t → t.transceiver.subscriberCount ≠ 0
  | _ => True

/-! ### One step -/

variable {k : Nat}

/-- A change to one task keeps the others serving, and its own stream if the task stays in its
loop. -/
theorem Serving.set {hub hub' : StreamsHub} (h : Serving k hub) {j : Nat} {t' : StreamTask}
    (hStreams : hub'.streams = hub.streams) (hTasks : hub'.tasks = hub.tasks.set j t')
    (hLive : ∀ identifier, j = k → hub.streams.lookup identifier = some k → Live t') :
    Serving k hub' := by
  refine ⟨h.toDistinct.set hStreams hTasks, fun identifier hLookup => ?_⟩
  rw [hStreams] at hLookup
  rw [hTasks]
  by_cases hj : j = k
  · subst hj
    exact ⟨t', List.getElem?_set_self (h.bounded identifier j hLookup),
      hLive identifier rfl hLookup⟩
  · rw [List.getElem?_set_ne hj]
    exact h.live identifier hLookup

theorem Serving.forwards {hub hub' : StreamsHub} (h : Serving k hub)
    (hForwards : Forwards hub hub') : Serving k hub' := by
  refine ⟨h.toDistinct.forwards hForwards, fun identifier hLookup => ?_⟩
  rw [hForwards.streams] at hLookup
  obtain ⟨t, hTask, hPhase, hEvents⟩ := h.live identifier hLookup
  obtain ⟨es, hPassing, hTask'⟩ := hForwards.tasks k
  refine ⟨{ t with events := t.events ++ es }, by rw [hTask', hTask]; rfl, hPhase, fun hMem => ?_⟩
  rcases List.mem_append.mp hMem with hMem | hMem
  · exact hEvents hMem
  · exact hPassing _ hMem

theorem Serving.opens {hub hub' : StreamsHub} (h : Serving k hub) {listened : Bool}
    {identifier : StreamIdentifier} {info : PublisherInfo}
    (hOpens : Opens hub listened identifier info hub') : Serving k hub' := by
  refine ⟨h.toDistinct.opens hOpens, fun other hLookup => ?_⟩
  rw [hOpens.tasks]
  rcases h.toDistinct.lookup_opens hOpens hLookup with ⟨-, rfl⟩ | ⟨-, hOld, hLt⟩
  · exact ⟨⟨info, .new, [], .receiving⟩, by simp, rfl, by simp⟩
  · rw [List.getElem?_append_left hLt]
    exact h.live other hOld

theorem Serving.removes {hub hub' : StreamsHub} (h : Serving k hub) {identifier : StreamIdentifier}
    (hRemoves : Removes hub identifier hub') : Serving k hub' := by
  refine ⟨h.toDistinct.removes hRemoves, fun other hOther => ?_⟩
  obtain ⟨j, t, hLookup, -, -, hTasks⟩ := hRemoves.tasks
  obtain ⟨hne, hOther⟩ := hRemoves.lookup hOther
  have hj : j ≠ k := fun hj => hne (h.injective other identifier k hOther (hj ▸ hLookup))
  rw [hTasks, List.getElem?_set_ne hj]
  exact h.live other hOther

theorem Serving.subscribes {hub hub' : StreamsHub} (h : Serving k hub)
    {identifier : StreamIdentifier} {info : SubscriberInfo}
    (hSubscribes : Subscribes hub identifier info hub') : Serving k hub' := by
  obtain ⟨j, t, sender, -, hTask, -, hTasks, -⟩ := hSubscribes.tasks
  refine h.set hSubscribes.streams hTasks fun other hj hOther => ?_
  obtain ⟨t', hTask', hPhase, hEvents⟩ := h.live other hOther
  rw [hj, hTask'] at hTask
  cases hTask
  exact ⟨hPhase, by simp [hEvents]⟩

/-- A loop goes on after an event if and only if the event does not end the stream, is no subscription
that fails to get its prior data, and takes nothing from a count of zero. -/
theorem phase_served_iff {t : StreamTask} {event : TransceiverEvent}
    {prior : Except StreamHubErrorValue Unit} (hPhase : t.phase = .receiving) :
    (served t event prior).phase = .receiving ↔
      event ≠ .unPublish ∧ (∀ sender info, event = .subscribe sender info → prior = .ok ()) ∧
      ∀ info, event = .unSubscribe info → t.transceiver.subscriberCount ≠ 0 := by
  cases event with
  | subscribe sender info =>
    cases prior with
    | ok u => simp [served, StreamDataTransceiver.receiveEvent, hPhase]
    | error e => simp [served, StreamDataTransceiver.receiveEvent]
  | unSubscribe info =>
    by_cases hZero : t.transceiver.subscriberCount = 0
    · simp [served, StreamDataTransceiver.receiveEvent, hZero]
    · simp [served, StreamDataTransceiver.receiveEvent, hZero, hPhase]
  | unPublish => simp [served, StreamDataTransceiver.receiveEvent]
  | api sender uuid => simp [served, StreamDataTransceiver.receiveEvent, hPhase]
  | request => simp [served, StreamDataTransceiver.receiveEvent, hPhase]

theorem Serving.serve {hub : StreamsHub} (h : Serving k hub) {j : Nat} {t : StreamTask}
    {event : TransceiverEvent} {rest : List TransceiverEvent}
    {prior : Except StreamHubErrorValue Unit} (hTask : hub.tasks[j]? = some t)
    (hEvents : t.events = event :: rest) (hSane : Sane k hub (.serve j event prior)) :
    Serving k (hub.serve j { t with events := rest } event prior) := by
  refine h.set (streams_serve hub j _ event prior) (tasks_serve hub j _ event prior)
    fun identifier hj hLookup => ?_
  subst hj
  obtain ⟨t', hTask', hPhase, hNone⟩ := h.live identifier hLookup
  rw [hTask] at hTask'
  cases hTask'
  rw [hEvents] at hNone
  have hEvent : event ≠ .unPublish := fun hEvent => hNone (hEvent ▸ List.mem_cons_self)
  refine ⟨(@phase_served_iff { t with events := rest } event prior hPhase).mpr
    ⟨hEvent, fun sender info hEvent => ?_, fun info hEvent => ?_⟩, fun hMem => ?_⟩
  · subst hEvent
    exact hSane rfl
  · subst hEvent
    exact hSane rfl t hTask
  · rw [events_served] at hMem
    exact hNone (List.mem_cons_of_mem event hMem)

theorem Serving.step {hub hub' : StreamsHub} {move : Move} (h : Serving k hub)
    (hStep : (system.guard (Sane k)).step hub move hub') : Serving k hub' := by
  obtain ⟨hSane, hStep⟩ := hStep
  cases move with
  | post event =>
    cases hStep
    exact ⟨⟨h.bounded, h.injective⟩, h.live⟩
  | take event listened =>
    obtain ⟨rest, hWaiting, -, rfl⟩ := step_take hStep
    have hTaken : Serving k { hub with hubEvents := rest } := ⟨⟨h.bounded, h.injective⟩, h.live⟩
    have hIdle : Idle ({ hub with hubEvents := rest } : StreamsHub).waiting := by
      simp [Idle, hWaiting]
    rcases handle_cases { hub with hubEvents := rest } listened event hIdle with
      ⟨identifier, info, -, hOpens⟩ | ⟨identifier, info, -, hRemoves⟩ |
      ⟨identifier, info, -, hSubscribes⟩ | ⟨hForwards, -⟩
    · exact hTaken.opens hOpens
    · exact hTaken.removes hRemoves
    · exact hTaken.subscribes hSubscribes
    · exact hTaken.forwards hForwards
  | serve j event prior =>
    obtain ⟨t, rest, hTask, -, hEvents, rfl⟩ := step_serve hStep
    exact h.serve hTask hEvents hSane
  | close j =>
    obtain ⟨t, hTask, hPhase, rfl⟩ := step_close hStep
    refine h.set (streams_close hub j t) (tasks_close hub j t) fun identifier hj hLookup => ?_
    obtain ⟨t', hTask', hReceiving, -⟩ := h.live identifier hLookup
    rw [hj, hTask'] at hTask
    cases hTask
    rw [hPhase] at hReceiving
    cases hReceiving
  | resume =>
    rcases step_resume hStep with ⟨j, identifier, info, answer, -, rfl⟩ | ⟨rfl, -⟩
    · refine ⟨h.toDistinct.conclude identifier info answer, ?_⟩
      rw [streams_conclude, tasks_conclude]
      exact h.live
    · exact ⟨⟨h.bounded, h.injective⟩, h.live⟩

end StreamsHub

open StreamsHub ProofKit

end Xiu.StreamHub
