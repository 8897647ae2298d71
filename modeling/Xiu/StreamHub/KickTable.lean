import Xiu.StreamHub.Invariants

/-! When the table of the events that kick clients off names exactly the clients of the streams: as
long as no client leaves. -/

namespace Xiu.StreamHub

namespace StreamsHub

open ProofKit

/-- The publisher of a stream's task, and its registered subscribers. -/
def TaskClient (t : StreamTask) (id : Uuid) : Prop :=
  t.publisher.id = id ∨ id ∈ t.transceiver.idToFrameSender ∨ id ∈ t.transceiver.idToPacketSender

def ClientOn (hub : StreamsHub) (id : Uuid) (k : Nat) : Prop :=
  (∃ identifier, hub.streams.lookup identifier = some k) ∧
    ∃ t, hub.tasks[k]? = some t ∧ TaskClient t id

/-- The publisher of a stream that the hub has, or a registered subscriber of one. -/
def Client (hub : StreamsHub) (id : Uuid) : Prop := ∃ k, ClientOn hub id k

/-- The subscriber whom the hub is about to enter. -/
def Entering (hub : StreamsHub) (id : Uuid) : Prop :=
  ∃ k identifier info, hub.waiting = some (.subscription k identifier info (some (.ok ()))) ∧
    info.id = id

/-- A step does not take the last place of a client: an unpublished stream has no client without
another stream, an unsubscription takes no client without another place, and a publisher whom the
listening clients cannot be told of is a client already. -/
def Stays (hub : StreamsHub) : Move → Prop
  | .take (.publish identifier info) listened =>
    hub.streams.lookup identifier = none →
    (hub.rtmpPushEnabled || hub.hlsEnabled || hub.rtmpRemuxerEnabled) && !listened →
    Client hub info.id
  | .take (.unPublish identifier _) _ =>
    ∀ k t, hub.streams.lookup identifier = some k → hub.tasks[k]? = some t → t.phase ≠ .gone →
      ∀ id, TaskClient t id → ∃ j, j ≠ k ∧ ClientOn hub id j
  | .serve k (.unSubscribe info) _ =>
    ∀ t, hub.tasks[k]? = some t → (∃ identifier, hub.streams.lookup identifier = some k) →
      TaskClient t info.id →
      TaskClient { t with transceiver := t.transceiver.removeSender info } info.id ∨
        ∃ j, j ≠ k ∧ ClientOn hub info.id j
  | _ => True

/-- The table names the clients, and the subscriber about to be entered is a client. -/
def Mirrors (hub : StreamsHub) : Prop :=
  ∀ id, (id ∈ hub.unPubSubEvents ∨ Entering hub id) ↔ Client hub id

/-! ### Clients -/

theorem clientOn_set {hub hub' : StreamsHub} {k : Nat} {t t' : StreamTask}
    (hStreams : hub'.streams = hub.streams) (hTask : hub.tasks[k]? = some t)
    (hTasks : hub'.tasks = hub.tasks.set k t') {id : Uuid} {j : Nat} :
    ClientOn hub' id j ↔
      (j ≠ k ∧ ClientOn hub id j) ∨
        (j = k ∧ (∃ identifier, hub.streams.lookup identifier = some k) ∧ TaskClient t' id) := by
  have hLt := (List.getElem?_eq_some_iff.mp hTask).1
  unfold ClientOn
  rw [hStreams, hTasks]
  by_cases hj : j = k
  · subst hj
    rw [List.getElem?_set_self hLt]
    simp
  · rw [List.getElem?_set_ne fun hEq => hj hEq.symm]
    simp [hj]

/-- A change to a task that keeps its clients keeps all clients. -/
theorem client_set {hub hub' : StreamsHub} {k : Nat} {t t' : StreamTask}
    (hStreams : hub'.streams = hub.streams) (hTask : hub.tasks[k]? = some t)
    (hTasks : hub'.tasks = hub.tasks.set k t') {id : Uuid}
    (hClient : TaskClient t' id ↔ TaskClient t id) : Client hub' id ↔ Client hub id := by
  constructor
  · rintro ⟨j, hOn⟩
    rcases (clientOn_set hStreams hTask hTasks).mp hOn with ⟨-, hOld⟩ | ⟨rfl, hStream, hNew⟩
    · exact ⟨j, hOld⟩
    · exact ⟨j, hStream, t, hTask, hClient.mp hNew⟩
  · rintro ⟨j, hOn⟩
    refine ⟨j, (clientOn_set hStreams hTask hTasks).mpr ?_⟩
    by_cases hj : j = k
    · subst hj
      obtain ⟨hStream, t0, hTask0, hOld⟩ := hOn
      rw [hTask] at hTask0
      cases hTask0
      exact .inr ⟨rfl, hStream, hClient.mpr hOld⟩
    · exact .inl ⟨hj, hOn⟩

theorem client_forwards {hub hub' : StreamsHub} (h : Forwards hub hub') {id : Uuid} :
    Client hub' id ↔ Client hub id := by
  refine exists_congr fun k => and_congr (by rw [h.streams]) ?_
  obtain ⟨es, -, hTask⟩ := h.tasks k
  rw [hTask]
  constructor
  · rintro ⟨t', hSome, hClient⟩
    obtain ⟨t, hTask, rfl⟩ := Option.map_eq_some_iff.mp hSome
    exact ⟨t, hTask, hClient⟩
  · rintro ⟨t, hSome, hClient⟩
    exact ⟨{ t with events := t.events ++ es }, by rw [hSome]; rfl, hClient⟩

theorem client_opens {hub hub' : StreamsHub} (hDistinct : Distinct hub) {listened : Bool}
    {identifier : StreamIdentifier} {info : PublisherInfo}
    (hOpens : Opens hub listened identifier info hub') {id : Uuid} :
    Client hub' id ↔ Client hub id ∨ info.id = id := by
  constructor
  · rintro ⟨k, ⟨other, hLookup⟩, t, hTask, hClient⟩
    rw [hOpens.tasks] at hTask
    rcases hDistinct.lookup_opens hOpens hLookup with ⟨-, rfl⟩ | ⟨-, hOld, hLt⟩
    · simp only [List.getElem?_append_right (Nat.le_refl _), Nat.sub_self,
        List.getElem?_cons_zero, Option.some.injEq] at hTask
      subst hTask
      rcases hClient with hPublisher | hFrame | hPacket
      · exact .inr hPublisher
      · exact absurd hFrame (AList.notMem_empty id)
      · exact absurd hPacket (AList.notMem_empty id)
    · rw [List.getElem?_append_left hLt] at hTask
      exact .inl ⟨k, ⟨other, hOld⟩, t, hTask, hClient⟩
  · rintro (⟨k, ⟨other, hLookup⟩, t, hTask, hClient⟩ | rfl)
    · have hne : other ≠ identifier := by
        rintro rfl
        rw [hOpens.absent] at hLookup
        cases hLookup
      refine ⟨k, ⟨other, ?_⟩, t, ?_, hClient⟩
      · rw [hOpens.streams, AList.lookup_insert_ne hne, hLookup]
      · rw [hOpens.tasks, List.getElem?_append_left (hDistinct.bounded other k hLookup), hTask]
    · refine ⟨hub.tasks.length, ⟨identifier, ?_⟩, ⟨info, .new, [], .receiving⟩, ?_, .inl rfl⟩
      · rw [hOpens.streams, AList.lookup_insert]
      · rw [hOpens.tasks, List.getElem?_append_right (Nat.le_refl _), Nat.sub_self]
        rfl

theorem client_removes {hub hub' : StreamsHub} (hDistinct : Distinct hub)
    {identifier : StreamIdentifier} (hRemoves : Removes hub identifier hub') {k : Nat}
    (hLookup : hub.streams.lookup identifier = some k) {id : Uuid} :
    Client hub' id ↔ ∃ j, j ≠ k ∧ ClientOn hub id j := by
  obtain ⟨k', t, hLookup', hTask, -, hTasks⟩ := hRemoves.tasks
  rw [hLookup] at hLookup'
  cases hLookup'
  constructor
  · rintro ⟨j, ⟨other, hOther⟩, t', hTask', hClient⟩
    obtain ⟨hne, hOld⟩ := hRemoves.lookup hOther
    have hj : j ≠ k := by
      rintro rfl
      exact hne (hDistinct.injective other identifier j hOld hLookup)
    rw [hTasks, List.getElem?_set_ne fun hEq => hj hEq.symm] at hTask'
    exact ⟨j, hj, ⟨other, hOld⟩, t', hTask', hClient⟩
  · rintro ⟨j, hj, ⟨other, hOld⟩, t', hTask', hClient⟩
    have hne : other ≠ identifier := by
      rintro rfl
      rw [hLookup] at hOld
      exact hj (Option.some.inj hOld).symm
    refine ⟨j, ⟨other, ?_⟩, t', ?_, hClient⟩
    · rw [hRemoves.streams, AList.lookup_erase_ne hne, hOld]
    · rw [hTasks, List.getElem?_set_ne fun hEq => hj hEq.symm, hTask']

/-! ### One step -/

theorem not_entering {hub : StreamsHub}
    (h : ∀ k identifier info, hub.waiting ≠ some (.subscription k identifier info (some (.ok ()))))
    {id : Uuid} : ¬ Entering hub id := by
  rintro ⟨k, identifier, info, hWaiting, -⟩
  exact h k identifier info hWaiting

theorem entering_congr {hub hub' : StreamsHub} (h : hub'.waiting = hub.waiting) {id : Uuid} :
    Entering hub' id ↔ Entering hub id := by
  unfold Entering
  rw [h]

/-- A step that changes neither the table, nor who enters, nor the clients. -/
theorem Mirrors.congr {hub hub' : StreamsHub} (h : Mirrors hub)
    (hTable : hub'.unPubSubEvents = hub.unPubSubEvents)
    (hEntering : ∀ id, Entering hub' id ↔ Entering hub id)
    (hClient : ∀ id, Client hub' id ↔ Client hub id) : Mirrors hub' := by
  intro id
  rw [hTable, hEntering id, hClient id]
  exact h id

theorem Mirrors.handle {hub : StreamsHub} (h : Mirrors hub) (hDistinct : Distinct hub)
    (hWaiting : hub.waiting = none) {listened : Bool} {event : StreamHubEvent}
    (hStays : Stays hub (.take event listened)) : Mirrors (hub.handle listened event) := by
  have hBefore : ∀ id, ¬ Entering hub id := fun id => not_entering (by simp [hWaiting])
  have hTable : ∀ id, id ∈ hub.unPubSubEvents ↔ Client hub id := fun id => by
    rw [← h id]
    simp [hBefore id]
  rcases handle_cases hub listened event (by simp [Idle, hWaiting]) with
    ⟨identifier, info, rfl, hOpens⟩ | ⟨identifier, info, rfl, hRemoves⟩ |
    ⟨identifier, info, rfl, hSubscribes⟩ | ⟨hForwards, hIdle⟩
  · intro id
    have hAfter : ¬ Entering (hub.handle listened (.publish identifier info)) id :=
      not_entering (by simp [hOpens.waiting, hWaiting])
    rw [client_opens hDistinct hOpens, hOpens.unPubSubEvents]
    split
    · rename_i hUntold
      have hKnown := hStays hOpens.absent hUntold
      rw [hTable id]
      refine ⟨fun hLeft => .inl (hLeft.resolve_right hAfter), fun hRight => .inl ?_⟩
      rcases hRight with hOld | rfl
      · exact hOld
      · exact hKnown
    · rw [AList.mem_insert, hTable id]
      simp only [hAfter, or_false, eq_comm (a := id)]
      exact or_comm
  · obtain ⟨k, t, hLookup, hTask, hPhase, hTasks⟩ := hRemoves.tasks
    intro id
    have hAfter : ¬ Entering (hub.handle listened (.unPublish identifier info)) id :=
      not_entering (by simp [hRemoves.waiting, hWaiting])
    rw [client_removes hDistinct hRemoves hLookup, hRemoves.unPubSubEvents, hTable id]
    constructor
    · rintro (⟨j, hOn⟩ | hEnter)
      · by_cases hj : j = k
        · subst hj
          obtain ⟨-, t0, hTask0, hClient⟩ := hOn
          rw [hTask] at hTask0
          cases hTask0
          exact hStays j t hLookup hTask hPhase id hClient
        · exact ⟨j, hj, hOn⟩
      · exact absurd hEnter hAfter
    · rintro ⟨j, -, hOn⟩
      exact .inl ⟨j, hOn⟩
  · obtain ⟨k, t, sender, -, hTask, -, hTasks, hAfter⟩ := hSubscribes.tasks
    refine h.congr hSubscribes.unPubSubEvents (fun id => ?_) fun id =>
      client_set hSubscribes.streams hTask hTasks Iff.rfl
    exact iff_of_false (not_entering (by simp [hAfter])) (hBefore id)
  · refine h.congr hForwards.unPubSubEvents (fun id => ?_) fun id => client_forwards hForwards
    exact iff_of_false (not_entering fun k identifier info => hIdle k identifier info _) (hBefore id)

theorem taskClient_insertSender (t : StreamTask) (id : Uuid) (sender : DataSender)
    (events : List TransceiverEvent) (phase : Phase) (count : Nat) (other : Uuid) :
    TaskClient ⟨t.publisher, { t.transceiver.insertSender id sender with subscriberCount := count },
      events, phase⟩ other ↔ TaskClient t other ∨ id = other := by
  cases sender with
  | frame sender =>
    simp only [TaskClient, StreamDataTransceiver.insertSender, AList.mem_insert, eq_comm (a := other)]
    tauto
  | packet sender =>
    simp only [TaskClient, StreamDataTransceiver.insertSender, AList.mem_insert, eq_comm (a := other)]
    tauto

theorem taskClient_removeSender_ne {t : StreamTask} {info : SubscriberInfo} {other : Uuid}
    (hne : other ≠ info.id) :
    TaskClient { t with transceiver := t.transceiver.removeSender info } other ↔
      TaskClient t other := by
  unfold TaskClient StreamDataTransceiver.removeSender
  split <;> simp [AList.mem_erase, hne]

theorem TaskClient.of_removeSender {t : StreamTask} {info : SubscriberInfo} {other : Uuid}
    (h : TaskClient { t with transceiver := t.transceiver.removeSender info } other) :
    TaskClient t other := by
  by_cases hne : other = info.id
  · unfold TaskClient StreamDataTransceiver.removeSender at h
    unfold TaskClient
    split at h <;> simp only [AList.mem_erase] at h <;> tauto
  · exact (taskClient_removeSender_ne hne).mp h

/-- The clients of a task after an event that it has taken. -/
theorem taskClient_served {t : StreamTask} {event : TransceiverEvent}
    {prior : Except StreamHubErrorValue Unit} {other : Uuid} :
    TaskClient (served t event prior) other ↔
      match event with
      | .subscribe _ info => TaskClient t other ∨ prior = .ok () ∧ info.id = other
      | .unSubscribe info =>
        TaskClient { t with transceiver := t.transceiver.removeSender info } other
      | _ => TaskClient t other := by
  cases event with
  | subscribe sender info =>
    cases prior with
    | ok u =>
      simp only [served, StreamDataTransceiver.receiveEvent, true_and]
      exact taskClient_insertSender t info.id sender t.events t.phase _ other
    | error e =>
      simp only [reduceCtorEq, false_and, or_false]
      exact Iff.rfl
  | unSubscribe info =>
    simp only [served, StreamDataTransceiver.receiveEvent]
    split
    · rename_i hTurn
      split at hTurn
      · cases hTurn
      · cases hTurn
        exact Iff.rfl
    · rename_i hTurn
      split at hTurn <;> cases hTurn
    · rename_i hTurn
      split at hTurn
      · cases hTurn
        exact Iff.rfl
      · cases hTurn
  | unPublish => exact Iff.rfl
  | api sender uuid => exact Iff.rfl
  | request => exact Iff.rfl

theorem Mirrors.serve {hub : StreamsHub} (h : Mirrors hub) (hPending : Pending hub) {k : Nat}
    {t : StreamTask} {event : TransceiverEvent} {rest : List TransceiverEvent}
    {prior : Except StreamHubErrorValue Unit} (hTask : hub.tasks[k]? = some t)
    (hEvents : t.events = event :: rest) (hStays : Stays hub (.serve k event prior)) :
    Mirrors (hub.serve k { t with events := rest } event prior) := by
  have hStreams := streams_serve hub k { t with events := rest } event prior
  have hTasks := tasks_serve hub k { t with events := rest } event prior
  have hTable := unPubSubEvents_serve hub k { t with events := rest } event prior
  by_cases hSubscribe : ∃ sender info, event = .subscribe sender info
  · obtain ⟨sender, info, rfl⟩ := hSubscribe
    obtain ⟨rfl, identifier, hWaiting⟩ := hPending.head hTask hEvents
    obtain ⟨result, hAfter, hResult⟩ := @waiting_serve_subscribe hub k { t with events := [] } sender
      info prior identifier hWaiting
    have hStream := hPending.stream k identifier info none hWaiting
    intro id
    have hBefore : ¬ Entering hub id := not_entering (by simp [hWaiting])
    have hOld : id ∈ hub.unPubSubEvents ↔ Client hub id := by
      rw [← h id]
      simp [hBefore]
    have hEnter : Entering (hub.serve k { t with events := [] } (.subscribe sender info) prior) id ↔
        prior = .ok () ∧ info.id = id := by
      constructor
      · rintro ⟨j, other, info', hSome, hId⟩
        rw [hAfter] at hSome
        cases hSome
        exact ⟨hResult.mp rfl, hId⟩
      · rintro ⟨hPrior, hId⟩
        rw [hResult.mpr hPrior] at hAfter
        exact ⟨k, identifier, info, hAfter, hId⟩
    rw [hTable, hEnter, hOld]
    constructor
    · rintro (⟨j, hOn⟩ | hNew)
      · refine ⟨j, (clientOn_set hStreams hTask hTasks).mpr ?_⟩
        by_cases hj : j = k
        · subst hj
          obtain ⟨hStream, t0, hTask0, hClient⟩ := hOn
          rw [hTask] at hTask0
          cases hTask0
          exact .inr ⟨rfl, hStream, taskClient_served.mpr (.inl hClient)⟩
        · exact .inl ⟨hj, hOn⟩
      · exact ⟨k, (clientOn_set hStreams hTask hTasks).mpr
          (.inr ⟨rfl, ⟨identifier, hStream⟩, taskClient_served.mpr (.inr hNew)⟩)⟩
    · rintro ⟨j, hOn⟩
      rcases (clientOn_set hStreams hTask hTasks).mp hOn with ⟨-, hOn⟩ | ⟨rfl, hStream, hClient⟩
      · exact .inl ⟨j, hOn⟩
      · rcases taskClient_served.mp hClient with hClient | hNew
        · exact .inl ⟨j, hStream, t, hTask, hClient⟩
        · exact .inr hNew
  · have hNot : ∀ sender info, event ≠ .subscribe sender info := fun sender info hEq =>
      hSubscribe ⟨sender, info, hEq⟩
    have hEntering : ∀ id, Entering (hub.serve k { t with events := rest } event prior) id ↔
        Entering hub id := by
      intro id
      rcases @waiting_serve hub k { t with events := rest } event prior hNot with hSame | ⟨hA, hB⟩
      · exact entering_congr hSame
      · exact iff_of_false (not_entering fun j other info => hB j other info _)
          (not_entering fun j other info => hA j other info _)
    refine h.congr hTable hEntering fun id => ?_
    by_cases hUnSubscribe : ∃ info, event = .unSubscribe info
    · obtain ⟨info, rfl⟩ := hUnSubscribe
      constructor
      · rintro ⟨j, hOn⟩
        rcases (clientOn_set hStreams hTask hTasks).mp hOn with ⟨-, hOn⟩ | ⟨rfl, hStream, hClient⟩
        · exact ⟨j, hOn⟩
        · exact ⟨j, hStream, t, hTask, TaskClient.of_removeSender (taskClient_served.mp hClient)⟩
      · rintro ⟨j, hOn⟩
        by_cases hj : j = k
        · subst hj
          obtain ⟨hStream, t0, hTask0, hClient⟩ := hOn
          rw [hTask] at hTask0
          cases hTask0
          by_cases hId : id = info.id
          · subst hId
            rcases hStays t hTask hStream hClient with hClient | ⟨i, hi, hOn⟩
            · exact ⟨j, (clientOn_set hStreams hTask hTasks).mpr
                (.inr ⟨rfl, hStream, taskClient_served.mpr hClient⟩)⟩
            · exact ⟨i, (clientOn_set hStreams hTask hTasks).mpr (.inl ⟨hi, hOn⟩)⟩
          · exact ⟨j, (clientOn_set hStreams hTask hTasks).mpr
              (.inr ⟨rfl, hStream, taskClient_served.mpr
                ((taskClient_removeSender_ne hId).mpr hClient)⟩)⟩
        · exact ⟨j, (clientOn_set hStreams hTask hTasks).mpr (.inl ⟨hj, hOn⟩)⟩
    · refine client_set hStreams hTask hTasks (taskClient_served.trans ?_)
      cases event with
      | subscribe sender info => exact absurd rfl (hNot sender info)
      | unSubscribe info => exact absurd ⟨info, rfl⟩ hUnSubscribe
      | unPublish => exact Iff.rfl
      | api sender uuid => exact Iff.rfl
      | request => exact Iff.rfl

theorem Mirrors.close {hub : StreamsHub} (h : Mirrors hub) {k : Nat} {t : StreamTask}
    (hTask : hub.tasks[k]? = some t) : Mirrors (hub.close k t) := by
  refine h.congr (unPubSubEvents_close hub k t) (fun id => ?_) fun id =>
    client_set (streams_close hub k t) hTask (tasks_close hub k t) Iff.rfl
  rcases waiting_close hub k t with ⟨identifier, info, hWaiting, hAfter⟩ | ⟨-, hSame⟩
  · exact iff_of_false (not_entering (by simp [hAfter])) (not_entering (by simp [hWaiting]))
  · exact entering_congr hSame

theorem client_conclude {hub : StreamsHub} {identifier : StreamIdentifier} {info : SubscriberInfo}
    {answer : Except StreamHubErrorValue Unit} {id : Uuid} :
    Client (hub.conclude identifier info answer) id ↔ Client hub id := by
  unfold Client ClientOn
  rw [streams_conclude, tasks_conclude]

theorem Mirrors.conclude {hub : StreamsHub} (h : Mirrors hub) {k : Nat}
    {identifier : StreamIdentifier} {info : SubscriberInfo} {answer : Except StreamHubErrorValue Unit}
    (hWaiting : hub.waiting = some (.subscription k identifier info (some answer))) :
    Mirrors (hub.conclude identifier info answer) := by
  intro id
  have hAfter : ¬ Entering (hub.conclude identifier info answer) id := by
    apply not_entering
    cases answer <;> simp [StreamsHub.conclude]
  rw [client_conclude, ← h id]
  cases answer with
  | ok u =>
    have hEnter : Entering hub id ↔ info.id = id := by
      constructor
      · rintro ⟨j, other, info', hSome, hId⟩
        rw [hWaiting] at hSome
        cases hSome
        exact hId
      · exact fun hId => ⟨k, identifier, info, hWaiting, hId⟩
    refine (or_iff_left hAfter).trans ?_
    rw [hEnter]
    simp only [StreamsHub.conclude, AList.mem_insert, eq_comm (a := id)]
    exact or_comm
  | error e =>
    have hBefore : ¬ Entering hub id := not_entering (by simp [hWaiting])
    simp only [hAfter, hBefore, or_false]
    exact Iff.rfl

theorem Mirrors.step {hub hub' : StreamsHub} {move : Move} (h : Mirrors hub)
    (hDistinct : Distinct hub) (hPending : Pending hub)
    (hStep : (system.guard Stays).step hub move hub') : Mirrors hub' := by
  obtain ⟨hStays, hStep⟩ := hStep
  cases move with
  | post event =>
    cases hStep
    exact h
  | take event listened =>
    obtain ⟨rest, hWaiting, -, rfl⟩ := step_take hStep
    have hTaken : Mirrors { hub with hubEvents := rest } := h
    exact hTaken.handle ⟨hDistinct.bounded, hDistinct.injective⟩ hWaiting hStays
  | serve k event prior =>
    obtain ⟨t, rest, hTask, -, hEvents, rfl⟩ := step_serve hStep
    exact h.serve hPending hTask hEvents hStays
  | close k =>
    obtain ⟨t, hTask, -, rfl⟩ := step_close hStep
    exact h.close hTask
  | resume =>
    rcases step_resume hStep with ⟨k, identifier, info, answer, hWaiting, rfl⟩ | ⟨rfl, hIdle⟩
    · exact h.conclude hWaiting
    · refine h.congr rfl (fun id => ?_) fun id => Iff.rfl
      exact iff_of_false (not_entering (by simp)) (not_entering fun k identifier info =>
        hIdle k identifier info _)

theorem new_mirrors (rtmpPush rtmpRemuxer rtmpPull hls : Bool) :
    Mirrors (new rtmpPush rtmpRemuxer rtmpPull hls) := by
  intro id
  constructor
  · rintro (hEntry | ⟨k, identifier, info, hWaiting, -⟩)
    · exact absurd hEntry (AList.notMem_empty id)
    · cases hWaiting
  · rintro ⟨k, ⟨identifier, hLookup⟩, -⟩
    cases hLookup

theorem reached_mirrors {hub : StreamsHub} (h : (system.guard Stays).Reached hub) :
    Mirrors hub := by
  have hAll : Distinct hub ∧ Pending hub ∧ Mirrors hub := by
    refine @System.Reached.invariant _ _ _ (fun hub => Distinct hub ∧ Pending hub ∧ Mirrors hub)
      (fun s hInit => ?_) (fun s move s' hs hStep => ?_) hub h
    · obtain ⟨rtmpPush, rtmpRemuxer, rtmpPull, hls, rfl⟩ := hInit
      exact ⟨new_distinct rtmpPush rtmpRemuxer rtmpPull hls,
        new_pending rtmpPush rtmpRemuxer rtmpPull hls, new_mirrors rtmpPush rtmpRemuxer rtmpPull hls⟩
    · exact ⟨hs.1.step hStep.2, hs.2.1.step hStep.2, hs.2.2.step hs.1 hs.2.1 hStep⟩
  exact hAll.2.2

end StreamsHub

open StreamsHub ProofKit

/-- In every state that a run in which no client leaves reaches, unless a subscription is under way,
the table names exactly the clients of the streams; and to kick off another one sends nothing. -/
theorem unPubSubEvents_mirror {hub : StreamsHub} (hReached : (system.guard Stays).Reached hub)
    (hIdle : Idle hub.waiting) :
    (∀ id, id ∈ hub.unPubSubEvents ↔ Client hub id) ∧
    ∀ id, ¬ Client hub id → hub.apiKickOffClient id = hub := by
  have hMirrors : ∀ id, id ∈ hub.unPubSubEvents ↔ Client hub id := by
    intro id
    have hNot : ¬ Entering hub id := not_entering fun k identifier info => hIdle k identifier info _
    rw [← reached_mirrors hReached id]
    simp [hNot]
  refine ⟨hMirrors, fun id hClient => ?_⟩
  have hNone := AList.lookup_eq_none.mpr fun hEntry => hClient ((hMirrors id).mp hEntry)
  simp only [apiKickOffClient, hNone]

/-- A stream that has just been published. -/
theorem published_mirror : ∃ hub, (system.guard Stays).Reached hub ∧
    Client hub (Uuid.new .zero 1700000000 fun _ => 0) ∧
    Uuid.new .zero 1700000000 (fun _ => 0) ∈ hub.unPubSubEvents := by
  let publisher : PublisherInfo := ⟨Uuid.new .zero 1700000000 fun _ => 0, .rtmpPush, .frame⟩
  obtain ⟨hub1, hTake, hWaiting, hEntry⟩ : ∃ hub1 ∈ ({ new false false false false with
      hubEvents := [.publish (.rtmp "live" "a") publisher] } : StreamsHub).step
        (.take (.publish (.rtmp "live" "a") publisher) false),
      hub1.waiting = none ∧ publisher.id ∈ hub1.unPubSubEvents := by decide +kernel
  have hReached : (system.guard Stays).Reached hub1 :=
    ⟨_, [.post (.publish (.rtmp "live" "a") publisher),
        .take (.publish (.rtmp "live" "a") publisher) false], ⟨false, false, false, false, rfl⟩,
      .cons ⟨trivial, rfl⟩ (.cons ⟨fun _ h => absurd h (by decide), hTake⟩ (.nil hub1))⟩
  have hMirror := unPubSubEvents_mirror hReached (by simp [Idle, hWaiting])
  exact ⟨hub1, hReached, (hMirror.1 publisher.id).mp hEntry, hEntry⟩

/-- A publisher that has left is still in the table, and to kick it off sends its event again. -/
theorem departed_publisher_kicked : ∃ hub id, system.Reached hub ∧ hub.waiting = none ∧
    ¬ Client hub id ∧ id ∈ hub.unPubSubEvents ∧
    ∃ info, info.id = id ∧
      (hub.apiKickOffClient id).hubEvents = [.unPublish (.rtmp "live" "a") info] := by
  let publisher : PublisherInfo := ⟨Uuid.new .zero 1700000000 fun _ => 0, .rtmpPush, .frame⟩
  obtain ⟨hub, hReached, hWaiting, hStreams, hEntry, hKick⟩ := @exists_reached false false false false
    [.post (.publish (.rtmp "live" "a") publisher), .take (.publish (.rtmp "live" "a") publisher) true,
      .post (.unPublish (.rtmp "live" "a") publisher),
      .take (.unPublish (.rtmp "live" "a") publisher) true]
    (fun hub => hub.waiting = none ∧ hub.streams.keys = [] ∧ publisher.id ∈ hub.unPubSubEvents ∧
      (hub.apiKickOffClient publisher.id).hubEvents = [.unPublish (.rtmp "live" "a") publisher])
    (by decide +kernel)
  refine ⟨hub, publisher.id, hReached, hWaiting, ?_, hEntry, publisher, rfl, hKick⟩
  rintro ⟨k, ⟨identifier, hLookup⟩, -⟩
  have hMem : identifier ∈ hub.streams.keys :=
    AList.mem_keys.mp (AList.lookup_isSome.mp (by rw [hLookup]; rfl))
  rw [hStreams] at hMem
  cases hMem

end Xiu.StreamHub
