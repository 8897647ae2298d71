import Xiu.StreamHub.Effects

/-! When a stream leaves the hub: when the hub takes an event that unpublishes it, whoever sent the
event. -/

namespace Xiu.StreamHub

namespace StreamsHub

open ProofKit

/-- What a step does to the streams. -/
theorem step_streams {hub hub' : StreamsHub} {move : Move} (h : hub.step move = some hub') :
    hub'.streams = hub.streams ∨
    (∃ identifier info listened, move = .take (.publish identifier info) listened ∧
      hub.streams.lookup identifier = none ∧
      hub'.streams = hub.streams.insert identifier hub.tasks.length) ∨
    (∃ identifier info listened, move = .take (.unPublish identifier info) listened ∧
      hub'.streams = hub.streams.erase identifier) := by
  cases move with
  | post event =>
    cases h
    exact .inl rfl
  | take event listened =>
    obtain ⟨rest, hWaiting, -, rfl⟩ := step_take h
    have hIdle : Idle ({ hub with hubEvents := rest } : StreamsHub).waiting := by
      simp [Idle, hWaiting]
    rcases handle_cases { hub with hubEvents := rest } listened event hIdle with
      ⟨identifier, info, rfl, hOpens⟩ | ⟨identifier, info, rfl, hRemoves⟩ |
      ⟨identifier, info, rfl, hSubscribes⟩ | ⟨hForwards, -⟩
    · exact .inr (.inl ⟨identifier, info, listened, rfl, hOpens.absent, hOpens.streams⟩)
    · exact .inr (.inr ⟨identifier, info, listened, rfl, hRemoves.streams⟩)
    · exact .inl hSubscribes.streams
    · exact .inl hForwards.streams
  | serve k event prior =>
    obtain ⟨t, rest, -, -, -, rfl⟩ := step_serve h
    exact .inl (streams_serve hub k _ event prior)
  | close k =>
    obtain ⟨t, -, -, rfl⟩ := step_close h
    exact .inl (streams_close hub k t)
  | resume =>
    rcases step_resume h with ⟨k, identifier, info, answer, -, rfl⟩ | ⟨rfl, -⟩
    · exact .inl (streams_conclude hub identifier info answer)
    · exact .inl rfl

/-- A step keeps a stream, with its task, unless the hub takes an event that unpublishes it. -/
theorem step_keeps_stream {hub hub' : StreamsHub} {move : Move} {identifier : StreamIdentifier}
    {k : Nat} (hLookup : hub.streams.lookup identifier = some k) (h : hub.step move = some hub')
    (hMove : ∀ info listened, move ≠ .take (.unPublish identifier info) listened) :
    hub'.streams.lookup identifier = some k := by
  rcases step_streams h with hSame | ⟨other, info, listened, rfl, hAbsent, hInsert⟩ |
    ⟨other, info, listened, rfl, hErase⟩
  · rw [hSame, hLookup]
  · have hne : identifier ≠ other := by
      rintro rfl
      rw [hLookup] at hAbsent
      cases hAbsent
    rw [hInsert, AList.lookup_insert_ne hne, hLookup]
  · have hne : identifier ≠ other := by
      rintro rfl
      exact hMove info listened rfl
    rw [hErase, AList.lookup_erase_ne hne, hLookup]

/-- An event that unpublishes a stream removes it if its task still has its channel, whatever
publisher the event names. -/
theorem unPublish_removes {hub hub' : StreamsHub} {identifier : StreamIdentifier}
    {info : PublisherInfo} {listened : Bool} {k : Nat} {t : StreamTask}
    (hLookup : hub.streams.lookup identifier = some k) (hTask : hub.tasks[k]? = some t)
    (hPhase : t.phase ≠ .gone)
    (h : hub.step (.take (.unPublish identifier info) listened) = some hub') :
    hub'.streams.lookup identifier = none := by
  obtain ⟨rest, hWaiting, -, rfl⟩ := step_take h
  have hSend : ({ hub with hubEvents := rest } : StreamsHub).sendTo k .unPublish =
      some { hub with
        hubEvents := rest
        tasks := hub.tasks.set k { t with events := t.events ++ [.unPublish] } } :=
    sendTo_eq_some.mpr ⟨t, hTask, hPhase, rfl⟩
  simp only [handle, unpublish, hLookup, hSend]
  exact AList.lookup_erase identifier hub.streams

end StreamsHub

open StreamsHub

/-- In any run of the hub a stream stays, with its task, until the hub takes an event that unpublishes
its identifier; and each such event removes the stream if its task still has its channel, whatever
publisher it names. -/
theorem stream_kept_until_unPublish {hub : StreamsHub} {identifier : StreamIdentifier} {k : Nat}
    (hLookup : hub.streams.lookup identifier = some k) :
    (∀ moves hub', system.Run hub moves hub' →
      (∀ info listened, Move.take (.unPublish identifier info) listened ∉ moves) →
      hub'.streams.lookup identifier = some k) ∧
    (∀ info listened hub' t, hub.tasks[k]? = some t → t.phase ≠ .gone →
      hub.step (.take (.unPublish identifier info) listened) = some hub' →
      hub'.streams.lookup identifier = none) := by
  refine ⟨fun moves hub' hRun => ?_,
    fun info listened hub' t hTask hPhase h => unPublish_removes hLookup hTask hPhase h⟩
  induction hRun with
  | nil hub => exact fun _ => hLookup
  | cons hStep _ ih =>
    intro hMoves
    have hKept := step_keeps_stream hLookup hStep fun info listened hMove =>
      hMoves info listened (hMove ▸ List.mem_cons_self)
    exact ih hKept fun info listened hMem => hMoves info listened (List.mem_cons_of_mem _ hMem)

/-- A stream that has just been published stays when an event comes that unpublishes another. -/
theorem published_stream_kept :
    ∃ hub' ∈ ((new false false false false).publish false (.rtmp "live" "a")
        ⟨Uuid.new .zero 1700000000 fun _ => 0, .rtmpPush, .frame⟩).1.run
      [.post (.unPublish (.rtmp "live" "b") ⟨Uuid.new .zero 1700000000 fun _ => 0, .rtmpPush, .frame⟩),
        .take (.unPublish (.rtmp "live" "b")
          ⟨Uuid.new .zero 1700000000 fun _ => 0, .rtmpPush, .frame⟩) true],
      hub'.streams.lookup (.rtmp "live" "a") = some 0 := by
  have hPublished : ((new false false false false).publish false (.rtmp "live" "a")
      ⟨Uuid.new .zero 1700000000 fun _ => 0, .rtmpPush, .frame⟩).1.streams.lookup
        (.rtmp "live" "a") = some 0 := by decide +kernel
  refine (Option.isSome_iff_exists.mp ?_).imp fun hub' hRun => ⟨hRun, ?_⟩
  · rfl
  · apply (stream_kept_until_unPublish hPublished).1 _ _ (run_run hRun)
    intro info listened hMem
    simp at hMem

/-- It is not so that only the event of its publisher removes a stream: the event of another client
takes it down. -/
theorem stranger_removes_stream :
    ¬ ∀ hub hub' move identifier k t, system.Reached hub →
      hub.streams.lookup identifier = some k → hub.tasks[k]? = some t →
      hub.step move = some hub' → hub'.streams.lookup identifier = none →
      ∃ info listened, move = .take (.unPublish identifier info) listened ∧
        info.id = t.publisher.id := by
  intro h
  let publisher : PublisherInfo := ⟨Uuid.new .zero 1700000000 fun _ => 0, .rtmpPush, .frame⟩
  let stranger : PublisherInfo := ⟨Uuid.new .zero 1700000001 fun _ => 0, .rtmpPush, .frame⟩
  obtain ⟨hub, hReached, hLookup, hTask, hStep⟩ := @exists_reached false false false false
    [.post (.publish (.rtmp "live" "a") publisher),
      .take (.publish (.rtmp "live" "a") publisher) true,
      .post (.unPublish (.rtmp "live" "a") stranger)]
    (fun hub => hub.streams.lookup (.rtmp "live" "a") = some 0 ∧
      hub.tasks[0]?.map StreamTask.publisher = some publisher ∧
      (hub.step (.take (.unPublish (.rtmp "live" "a") stranger) true)).map
        (fun hub' => hub'.streams.lookup (.rtmp "live" "a")) = some none)
    (by decide +kernel)
  obtain ⟨t, hTask, hPublisher⟩ := Option.map_eq_some_iff.mp hTask
  obtain ⟨hub', hStep, hRemoved⟩ := Option.map_eq_some_iff.mp hStep
  obtain ⟨info, listened, hMove, hId⟩ := h hub hub' _ _ 0 t hReached hLookup hTask hStep hRemoved
  cases hMove
  rw [hPublisher] at hId
  exact absurd hId (by decide +kernel)

end Xiu.StreamHub
