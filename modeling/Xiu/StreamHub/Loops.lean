import Xiu.StreamHub.Feeds

/-! The loops of a stream that take frames and packets from the publisher's channel,
`receive_frame_data_loop` and `receive_packet_data_loop` in `library/streamhub/src/lib.rs`.  They hand on
all that is sent; but a channel without senders gives them nothing at once, again and again. -/

namespace Xiu.StreamHub

open ProofKit StreamDataTransceiver

variable {α : Type}

/-- `receiver.recv()`: waits while nothing is in the channel and a sender is left. -/
def recv : List α → Bool → Option (Option α × List α)
  | data :: queue, _ => some (some data, queue)
  | [], true => some (none, [])
  | [], false => none

/-- A loop, its channel, its exit signal, and what it has handed on. -/
structure DataLoop (α : Type) where
  queue : List α
  /-- No sender is left. -/
  closed : Bool
  exit : Bool
  looping : Bool
  received : Channel → List Data

/-- The publisher sends, and drops the last sender; the exit signal is given; the loop goes round with
what `recv` gives, or leaves. -/
inductive LoopMove (α : Type) where
  | send (data : α)
  | dropSenders
  | signal
  | turn
  | leave

namespace DataLoop

/-- What a turn does with what it has received. -/
def handleSome (handle : (Channel → List Data) → α → Channel → List Data)
    (received : Channel → List Data) : Option α → Channel → List Data
  | some data => handle received data
  | none => received

def step (handle : (Channel → List Data) → α → Channel → List Data) (s : DataLoop α) :
    LoopMove α → Option (DataLoop α)
  | .send data => if s.closed then none else some { s with queue := s.queue ++ [data] }
  | .dropSenders => some { s with closed := true }
  | .signal => some { s with exit := true }
  | .turn =>
    match s.looping, recv s.queue s.closed with
    | true, some (data, queue) =>
      some { s with queue, received := handleSome handle s.received data }
    | _, _ => none
  | .leave => if s.looping ∧ s.exit then some { s with looping := false } else none

/-- A loop that has been started. -/
def start (received : Channel → List Data) : DataLoop α := ⟨[], false, false, true, received⟩

end DataLoop

def loopSystem (handle : (Channel → List Data) → α → Channel → List Data) :
    System (DataLoop α) (LoopMove α) where
  init s := ∃ received, s = .start received
  step s move s' := s.step handle move = some s'

/-- `receive_frame_data_loop` -/
def receiveFrameDataLoop (t : StreamDataTransceiver) : System (DataLoop FrameData) (LoopMove FrameData) :=
  loopSystem (receiveFrameData t)

/-- `receive_packet_data_loop` -/
def receivePacketDataLoop (t : StreamDataTransceiver) :
    System (DataLoop PacketData) (LoopMove PacketData) :=
  loopSystem (receivePacketData t)

/-! ### What is handed on -/

/-- What subscribers get of a frame. -/
def handedFrame : FrameData → Option Data
  | .metaData _ _ => none
  | data => some (.frame data)

def handedPacket (data : PacketData) : Option Data := some (.packet data)

/-- The channel of one subscriber, which is in the map once. -/
def Registered (senders : Table Uuid Channel) (c : Channel) : Prop :=
  ∃ id, senders.lookup id = some c ∧ ∀ id', senders.lookup id' = some c → id' = id

/-- A handler that hands on to the senders of a map, once, what there is to hand on. -/
def HandsOn (senders : Table Uuid Channel) (handed : α → Option Data)
    (handle : (Channel → List Data) → α → Channel → List Data) : Prop :=
  ∀ received data c, Registered senders c →
    handle received data c = received c ++ (handed data).toList

theorem sendAll_registered {senders : Table Uuid Channel} {c : Channel} (h : Registered senders c)
    (received : Channel → List Data) (data : Data) :
    sendAll senders.entries received data c = received c ++ [data] := by
  obtain ⟨id, hLookup, hOnly⟩ := h
  refine sendAll_of_mem (AList.nodupKeys _) (mem_entries.mpr hLookup) ?_ received data
  rintro ⟨id', c'⟩ hMem rfl
  exact hOnly id' (mem_entries.mp hMem)

theorem receiveFrameData_handsOn (t : StreamDataTransceiver) :
    HandsOn t.idToFrameSender handedFrame (receiveFrameData t) := by
  intro received data c h
  cases data with
  | metaData timestamp data => exact (List.append_nil _).symm
  | video timestamp data => exact sendAll_registered h received _
  | audio timestamp data => exact sendAll_registered h received _
  | mediaInfo info => exact sendAll_registered h received _

theorem receivePacketData_handsOn (t : StreamDataTransceiver) :
    HandsOn t.idToPacketSender handedPacket (receivePacketData t) :=
  fun received _ _ h => sendAll_registered h received _

variable {senders : Table Uuid Channel} {handed : α → Option Data}
  {handle : (Channel → List Data) → α → Channel → List Data} {received : Channel → List Data}

theorem HandsOn.foldl (h : HandsOn senders handed handle) {c : Channel} (hc : Registered senders c)
    (taken : List α) (received : Channel → List Data) :
    taken.foldl handle received c = received c ++ taken.filterMap handed := by
  induction taken generalizing received with
  | nil => exact (List.append_nil _).symm
  | cons data rest ih =>
    rw [List.foldl_cons, ih, h received data c hc, List.append_assoc, List.filterMap_cons]
    cases handed data with
    | none => rfl
    | some d => rfl

/-! ### Runs -/

/-- What is sent by a move. -/
def LoopMove.sent? : LoopMove α → Option α
  | .send data => some data
  | _ => none

/-- The publisher has sent this and has gone, and the exit signal has not been given. -/
structure Gone (moves : List (LoopMove α)) (data : List α) : Prop where
  sent : moves.filterMap LoopMove.sent? = data
  dropped : LoopMove.dropSenders ∈ moves
  noSignal : LoopMove.signal ∉ moves

/-- What has been sent is handed on or is in the channel, as long as there is no exit signal. -/
structure Keeps (handle : (Channel → List Data) → α → Channel → List Data)
    (received : Channel → List Data) (moves : List (LoopMove α)) (s : DataLoop α) : Prop where
  looping : s.looping = true
  exit : s.exit = false
  closed : LoopMove.dropSenders ∈ moves → s.closed = true
  kept : ∃ taken, moves.filterMap LoopMove.sent? = taken ++ s.queue ∧
    s.received = taken.foldl handle received

theorem Keeps.step {moves : List (LoopMove α)} {s s' : DataLoop α} {move : LoopMove α}
    (h : Keeps handle received moves s) (hStep : s.step handle move = some s')
    (hSignal : move ≠ .signal) : Keeps handle received (moves ++ [move]) s' := by
  obtain ⟨hLooping, hExit, hClosed, taken, hSent, hReceived⟩ := h
  have hSent' : (moves ++ [move]).filterMap LoopMove.sent? =
      taken ++ s.queue ++ [move].filterMap LoopMove.sent? := by
    rw [List.filterMap_append, hSent]
  cases move with
  | send data =>
    simp only [DataLoop.step] at hStep
    split at hStep
    · cases hStep
    · cases hStep
      refine ⟨hLooping, hExit, fun hMem => ?_, taken, hSent'.trans (List.append_assoc _ _ _), hReceived⟩
      rcases List.mem_append.mp hMem with hMem | hMem
      · exact hClosed hMem
      · cases List.mem_singleton.mp hMem
  | dropSenders =>
    cases hStep
    exact ⟨hLooping, hExit, fun _ => rfl, taken, hSent'.trans (List.append_nil _), hReceived⟩
  | signal => exact absurd rfl hSignal
  | turn =>
    have hAll : (moves ++ [LoopMove.turn]).filterMap LoopMove.sent? = taken ++ s.queue :=
      hSent'.trans (List.append_nil _)
    have hClosed' : LoopMove.dropSenders ∈ moves ++ [LoopMove.turn] → s.closed = true := by
      intro hMem
      rcases List.mem_append.mp hMem with hMem | hMem
      · exact hClosed hMem
      · cases List.mem_singleton.mp hMem
    obtain ⟨queue, closed, exit, looping, got⟩ := s
    subst hLooping
    cases queue with
    | nil =>
      cases closed with
      | false => cases hStep
      | true =>
        cases hStep
        exact ⟨rfl, hExit, fun _ => rfl, taken, hAll, hReceived⟩
    | cons data rest =>
      cases hStep
      refine ⟨rfl, hExit, hClosed', taken ++ [data], hAll.trans (List.append_cons _ _ _), ?_⟩
      rw [List.foldl_append]
      exact congrArg (fun got => handle got data) hReceived
  | leave =>
    have hNot : ¬(s.looping = true ∧ s.exit = true) := fun h => by
      rw [hExit] at h
      cases h.2
    rw [DataLoop.step, if_neg hNot] at hStep
    cases hStep

theorem run_keeps {moves : List (LoopMove α)} {s : DataLoop α}
    (hRun : (loopSystem handle).Run (.start received) moves s)
    (hSignal : LoopMove.signal ∉ moves) : Keeps handle received moves s := by
  have hAll : LoopMove.signal ∉ [] ++ moves → Keeps handle received ([] ++ moves) s := by
    refine System.Run.preserves_labels
      (I := fun moves s => LoopMove.signal ∉ moves → Keeps handle received moves s) ?_ hRun ?_
    · intro before s move s' h hStep hNot
      rw [List.mem_append, not_or, List.mem_singleton] at hNot
      exact (h hNot.1).step hStep (Ne.symm hNot.2)
    · exact fun _ => ⟨rfl, rfl, fun hMem => absurd hMem List.not_mem_nil, [], rfl, rfl⟩
  exact hAll hSignal

/-! ### When the publisher has gone -/

/-- The loop goes on until all is taken, and then every subscriber has been given each frame or packet
once, in order. -/
def Forwards (loop : System (DataLoop α) (LoopMove α)) (handed : α → Option Data)
    (senders : Table Uuid Channel) (received : Channel → List Data) (data : List α) : Prop :=
  ∀ moves s, loop.Run (.start received) moves s → Gone moves data →
    (s.queue ≠ [] → ∃ s', loop.step s .turn s' ∧ s'.queue.length < s.queue.length) ∧
    (s.queue = [] → ∀ c, Registered senders c → s.received c = received c ++ data.filterMap handed)

/-- When all is taken the loop does not go round. -/
def Rests (loop : System (DataLoop α) (LoopMove α)) (received : Channel → List Data)
    (data : List α) : Prop :=
  ∀ moves s, loop.Run (.start received) moves s → Gone moves data → s.queue = [] →
    ∀ s', ¬loop.step s .turn s'

/-- A stream whose publisher has gone loses nothing and does not spin. -/
def Drains (loop : System (DataLoop α) (LoopMove α)) (handed : α → Option Data)
    (senders : Table Uuid Channel) (received : Channel → List Data) (data : List α) : Prop :=
  Forwards loop handed senders received data ∧ Rests loop received data

theorem forwards (h : HandsOn senders handed handle) (received : Channel → List Data)
    (data : List α) : Forwards (loopSystem handle) handed senders received data := by
  intro moves s hRun hGone
  obtain ⟨hLooping, -, -, taken, hSent, hReceived⟩ := run_keeps hRun hGone.noSignal
  refine ⟨fun hMore => ?_, fun hEmpty c hc => ?_⟩
  · cases hQueue : s.queue with
    | nil => exact absurd hQueue hMore
    | cons first rest =>
      have hTurn : s.step handle .turn =
          some { s with queue := rest, received := handle s.received first } := by
        simp only [DataLoop.step, hLooping, hQueue]
        rfl
      exact ⟨_, hTurn, Nat.lt_succ_self _⟩
  · have hTaken : data = taken := by
      rw [← hGone.sent, hSent, hEmpty, List.append_nil]
    rw [hReceived, hTaken]
    exact h.foldl hc taken received

/-- A turn on an empty channel without senders changes nothing, and the next one comes. -/
theorem turn_closed {s : DataLoop α} (hLooping : s.looping = true) (hClosed : s.closed = true)
    (hEmpty : s.queue = []) : s.step handle .turn = some s := by
  obtain ⟨queue, closed, exit, looping, got⟩ := s
  subst hLooping
  subst hClosed
  subst hEmpty
  rfl

/-- Whenever the publisher has gone and all is taken, the loop goes round as often as one likes. -/
theorem spins {moves : List (LoopMove α)} {s : DataLoop α} {data : List α}
    (hRun : (loopSystem handle).Run (.start received) moves s) (hGone : Gone moves data)
    (hEmpty : s.queue = []) (n : Nat) :
    (loopSystem handle).Run s (List.replicate n .turn) s := by
  obtain ⟨hLooping, -, hClosed, -⟩ := run_keeps hRun hGone.noSignal
  have hTurn : s.step handle .turn = some s := turn_closed hLooping (hClosed hGone.dropped) hEmpty
  induction n with
  | zero => exact .nil s
  | succ n ih => exact .cons hTurn ih

theorem run_sends (s : DataLoop α) (h : s.closed = false) (data : List α) :
    (loopSystem handle).Run s (data.map .send) { s with queue := s.queue ++ data } := by
  induction data generalizing s with
  | nil =>
    rw [List.append_nil]
    exact .nil s
  | cons first rest ih =>
    have hStep : s.step handle (.send first) = some { s with queue := s.queue ++ [first] } := by
      rw [DataLoop.step, h]
      rfl
    have hRest := ih { s with queue := s.queue ++ [first] } h
    rw [List.append_assoc] at hRest
    exact .cons hStep hRest

theorem run_turns (s : DataLoop α) (h : s.looping = true) :
    ∃ s', (loopSystem handle).Run s (List.replicate s.queue.length .turn) s' ∧
      s'.queue = [] := by
  obtain ⟨queue, closed, exit, looping, got⟩ := s
  subst h
  induction queue generalizing got with
  | nil => exact ⟨_, .nil _, rfl⟩
  | cons first rest ih =>
    obtain ⟨s', hRun, hEmpty⟩ := ih (handle got first)
    exact ⟨s', .cons rfl hRun, hEmpty⟩

theorem gone_script (data : List α) (n : Nat) :
    Gone (data.map .send ++ .dropSenders :: List.replicate n .turn) data := by
  have hTurns : (List.replicate n (LoopMove.turn : LoopMove α)).filterMap LoopMove.sent? = [] := by
    refine List.filterMap_eq_nil_iff.mpr fun move hMem => ?_
    rw [List.eq_of_mem_replicate hMem]
    rfl
  have hSends : (data.map LoopMove.send).filterMap LoopMove.sent? = data := by
    rw [List.filterMap_map]
    exact List.filterMap_some
  refine ⟨?_, List.mem_append_right _ List.mem_cons_self, fun hMem => ?_⟩
  · rw [List.filterMap_append, List.filterMap_cons_none rfl, hTurns, hSends, List.append_nil]
  · rcases List.mem_append.mp hMem with hMem | hMem
    · obtain ⟨first, -, hSend⟩ := List.mem_map.mp hMem
      cases hSend
    · rcases List.mem_cons.mp hMem with hMem | hMem
      · cases hMem
      · cases List.eq_of_mem_replicate hMem

/-- The publisher sends, and goes, and the loop takes it all. -/
theorem exists_taken (handle : (Channel → List Data) → α → Channel → List Data)
    (received : Channel → List Data) (data : List α) : ∃ moves s,
      (loopSystem handle).Run (.start received) moves s ∧ Gone moves data ∧ s.queue = [] := by
  obtain ⟨s, hTurns, hEmpty⟩ := @run_turns _ handle ⟨data, true, false, true, received⟩ rfl
  have hSends := @run_sends _ handle (.start received) rfl data
  have hDrop : (loopSystem handle).step ⟨data, false, false, true, received⟩ .dropSenders
      ⟨data, true, false, true, received⟩ := rfl
  exact ⟨_, s, hSends.append (.cons hDrop hTurns), gone_script data _, hEmpty⟩

theorem not_rests (handle : (Channel → List Data) → α → Channel → List Data)
    (received : Channel → List Data) (data : List α) : ¬Rests (loopSystem handle) received data := by
  intro h
  obtain ⟨moves, s, hRun, hGone, hEmpty⟩ := exists_taken handle received data
  cases spins hRun hGone hEmpty 1 with
  | cons hTurn _ => exact h moves s hRun hGone hEmpty _ hTurn

/-- Whatever a publisher sends before it goes, both loops hand it on, and neither of them rests then. -/
theorem forwards_and_spins (t : StreamDataTransceiver) (received : Channel → List Data)
    (frames : List FrameData) (packets : List PacketData) :
    (Forwards (receiveFrameDataLoop t) handedFrame t.idToFrameSender received frames ∧
      ¬Drains (receiveFrameDataLoop t) handedFrame t.idToFrameSender received frames) ∧
    Forwards (receivePacketDataLoop t) handedPacket t.idToPacketSender received packets ∧
      ¬Drains (receivePacketDataLoop t) handedPacket t.idToPacketSender received packets := by
  refine ⟨⟨?_, ?_⟩, ?_, ?_⟩
  · exact forwards (receiveFrameData_handsOn t) received frames
  · exact fun h => not_rests (receiveFrameData t) received frames h.2
  · exact forwards (receivePacketData_handsOn t) received packets
  · exact fun h => not_rests (receivePacketData t) received packets h.2

/-- A stream with one subscriber. -/
def oneSubscriber : StreamDataTransceiver :=
  StreamDataTransceiver.new.insertSender (.new .zero 1700000000 Uuid.noDigits) (.frame 0)

/-- The publisher sends one frame and goes. -/
theorem one_frame_spins : ¬Drains (receiveFrameDataLoop oneSubscriber) handedFrame
    oneSubscriber.idToFrameSender (fun _ => []) [.audio 0 [1]] :=
  fun h => not_rests (receiveFrameData oneSubscriber) (fun _ => []) [.audio 0 [1]] h.2

end Xiu.StreamHub
