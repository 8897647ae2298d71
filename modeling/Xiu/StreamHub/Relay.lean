import Mathlib.Algebra.GroupWithZero.Nat
import Xiu.ProofKit.System
import Xiu.StreamHub.Hub

/-! A request to relay a stream, of `api_start_relay_stream` and `api_stop_relay_stream` in
`library/streamhub/src/lib.rs`.  The request is broadcast with a sender of its result, the consumers
that receive it answer it or drop it, and the hub waits until it has a result or no sender of one is
left. -/

namespace Xiu.StreamHub

open ProofKit

/-- A message, and whether a result is asked for. -/
structure Broadcast where
  event : BroadcastEvent
  resultSender : Bool
  deriving DecidableEq

/-- The message in which the hub sends an event: a request of the API asks for a result, and it alone
has an address. -/
def BroadcastEvent.message : BroadcastEvent → Broadcast
  | .publish identifier => ⟨.publish identifier, false⟩
  | .subscribe id identifier serverAddress =>
    ⟨.subscribe id identifier serverAddress, serverAddress.isSome⟩
  | .unSubscribe id => ⟨.unSubscribe id, true⟩

/-- How the loop of a consumer is left. -/
inductive Left where
  | returned
  | panicked
  deriving DecidableEq

inductive RelayErrorValue where
  | hub (value : StreamHubErrorValue)
  | rtspClientSessionError (text : String)
  deriving DecidableEq

abbrev RelayResult := Except RelayErrorValue Unit

/-- A consumer's copy of the message: it has not been received, or it is being handled, or dropped. -/
inductive Copy where
  | undelivered
  | held
  | gone
  deriving DecidableEq

/-- The function while it waits, or with its outcome, and what else has a sender of the result. -/
structure Relay where
  broadcast : Option Broadcast
  /-- The function's own `result_sender` has not been moved into a message. -/
  own : Bool
  copies : List Copy
  /-- What has been sent and not been received, at most one result. -/
  results : List RelayResult
  outcome : Option RelayResult

namespace Relay

/-- Up to the point where `result_receiver` is waited for. -/
def begin (relayType : RelayType) (event : BroadcastEvent) (consumers : Nat) : Relay :=
  match relayType with
  | .pull =>
    if consumers = 0 then
      ⟨none, false, [], [], some (.error (.hub .sendError))⟩
    else
      ⟨some ⟨event, true⟩, false, List.replicate consumers .undelivered, [], none⟩
  | .push => ⟨none, true, [], [], none⟩

def apiStartRelayStream (id : String) (relayType : RelayType) (identifier : StreamIdentifier)
    (serverAddress : String) (consumers : Nat) : Relay :=
  begin relayType (.subscribe id identifier (some serverAddress)) consumers

def apiStopRelayStream (id : String) (relayType : RelayType) (consumers : Nat) : Relay :=
  begin relayType (.unSubscribe id) consumers

/-- The clones of `result_sender` that are left.  The message stays in the channel until every consumer
has received it. -/
def senders (c : Relay) : Nat :=
  c.own.toNat + c.copies.count .held + if .undelivered ∈ c.copies then 1 else 0

/-- A consumer receives the message; it answers, which waits while there is a result that nobody has
received; it drops the message; the function receives a result, or finds that no sender is left. -/
inductive Move where
  | deliver (i : Nat)
  | reply (i : Nat) (result : RelayResult)
  | drop (i : Nat)
  | receive
  | close

def setCopy (c : Relay) (i : Nat) (copy : Copy) : Relay := { c with copies := c.copies.set i copy }

def step (c : Relay) : Move → Option Relay
  | .deliver i => if c.copies[i]? = some .undelivered then some (c.setCopy i .held) else none
  | .reply i result =>
    if c.copies[i]? = some .held then
      match c.outcome, c.results with
      | some _, _ => some (c.setCopy i .gone)
      | none, [] => some { c.setCopy i .gone with results := [result] }
      | none, _ :: _ => none
    else
      none
  | .drop i => if c.copies[i]? = some .held then some (c.setCopy i .gone) else none
  | .receive =>
    match c.outcome, c.results with
    | none, result :: rest => some { c with outcome := some result, results := rest }
    | _, _ => none
  | .close =>
    if c.outcome = none ∧ c.results = [] ∧ c.senders = 0 then
      some { c with outcome := some (.ok ()) }
    else
      none

end Relay

/-- A request of the API. -/
inductive RelayRequest where
  | start (id : String) (identifier : StreamIdentifier) (serverAddress : String)
      (relayType : RelayType)
  | stop (id : String) (relayType : RelayType)

namespace RelayRequest

def relayType : RelayRequest → RelayType
  | start _ _ _ relayType | stop _ relayType => relayType

def begin (consumers : Nat) : RelayRequest → Relay
  | start id identifier serverAddress relayType =>
    Relay.apiStartRelayStream id relayType identifier serverAddress consumers
  | stop id relayType => Relay.apiStopRelayStream id relayType consumers

/-- A request with so many consumers. -/
def system (request : RelayRequest) (consumers : Nat) : System Relay Relay.Move where
  init c := c = request.begin consumers
  step c move c' := c.step move = some c'

/-- The function finishes, whatever the consumers do: while it waits, it has no sender of the result
itself, and it waits no longer than they take to receive the message and to answer it or drop it. -/
structure Finishes (request : RelayRequest) (consumers : Nat) : Prop where
  terminates : (request.system consumers).Terminates fun c => c.outcome.isSome
  elsewhere : ∀ c, (request.system consumers).Reached c → c.outcome = none → c.own = false

end RelayRequest

namespace Relay

/-! ### Requests that finish -/

def Copy.weight : Copy → Nat
  | .undelivered => 2
  | .held => 1
  | .gone => 0

/-- What is still to come: two steps for each copy, and the outcome. -/
def todo (c : Relay) : Nat :=
  (c.copies.map Copy.weight).sum + if c.outcome = none then 1 else 0

theorem sum_set_lt {copies : List Copy} {i : Nat} {copy copy' : Copy} (h : copies[i]? = some copy)
    (hLess : Copy.weight copy' < Copy.weight copy) :
    ((copies.set i copy').map Copy.weight).sum < (copies.map Copy.weight).sum := by
  induction copies generalizing i with
  | nil => simp at h
  | cons first rest ih =>
    cases i with
    | zero =>
      rw [List.getElem?_cons_zero] at h
      cases h
      simpa using hLess
    | succ i =>
      rw [List.getElem?_cons_succ] at h
      simpa using ih h

theorem todo_setCopy {c : Relay} {i : Nat} {copy copy' : Copy} (h : c.copies[i]? = some copy)
    (hLess : Copy.weight copy' < Copy.weight copy) : (c.setCopy i copy').todo < c.todo :=
  Nat.add_lt_add_right (sum_set_lt h hLess) _

theorem todo_step {c c' : Relay} {move : Move} (h : c.step move = some c') : c'.todo < c.todo := by
  cases move with
  | deliver i =>
    obtain ⟨hCopy, hNext⟩ := Option.ite_none_right_eq_some.mp h
    cases hNext
    exact todo_setCopy hCopy (by decide)
  | reply i result =>
    obtain ⟨hCopy, hNext⟩ := Option.ite_none_right_eq_some.mp h
    split at hNext
    · cases hNext
      exact todo_setCopy hCopy (by decide)
    · cases hNext
      exact todo_setCopy (c := c) hCopy (by decide)
    · cases hNext
  | drop i =>
    obtain ⟨hCopy, hNext⟩ := Option.ite_none_right_eq_some.mp h
    cases hNext
    exact todo_setCopy hCopy (by decide)
  | receive =>
    simp only [step] at h
    split at h
    · rename_i result rest hOutcome hResults
      cases h
      simp [todo, hOutcome]
    · cases h
  | close =>
    obtain ⟨⟨hOutcome, -, -⟩, hNext⟩ := Option.ite_none_right_eq_some.mp h
    cases hNext
    simp [todo, hOutcome]

theorem own_step {c c' : Relay} {move : Move} (h : c.step move = some c') : c'.own = c.own := by
  cases move with
  | deliver i | drop i | close =>
    obtain ⟨-, hNext⟩ := Option.ite_none_right_eq_some.mp h
    cases hNext
    rfl
  | reply i result =>
    obtain ⟨-, hNext⟩ := Option.ite_none_right_eq_some.mp h
    split at hNext <;> cases hNext <;> rfl
  | receive =>
    simp only [step] at h
    split at h <;> cases h
    rfl

/-- While the function waits, and has no sender itself, something can be done. -/
theorem exists_step {c : Relay} (hOwn : c.own = false) (hWaits : c.outcome = none) :
    ∃ move c', c.step move = some c' := by
  cases hResults : c.results with
  | cons result rest =>
    refine ⟨.receive, { c with outcome := some result, results := rest }, ?_⟩
    simp only [step, hWaits, hResults]
  | nil =>
    by_cases hUndelivered : .undelivered ∈ c.copies
    · obtain ⟨i, hCopy⟩ := List.mem_iff_getElem?.mp hUndelivered
      exact ⟨.deliver i, _, if_pos hCopy⟩
    by_cases hHeld : .held ∈ c.copies
    · obtain ⟨i, hCopy⟩ := List.mem_iff_getElem?.mp hHeld
      exact ⟨.drop i, _, if_pos hCopy⟩
    · have hSenders : c.senders = 0 := by
        rw [senders, hOwn, if_neg hUndelivered, List.count_eq_zero.mpr hHeld]
        rfl
      exact ⟨.close, _, if_pos ⟨hWaits, hResults, hSenders⟩⟩

end Relay

namespace RelayRequest

theorem begin_eq (request : RelayRequest) (consumers : Nat) :
    ∃ event, request.begin consumers = Relay.begin request.relayType event consumers := by
  cases request with
  | start id identifier serverAddress relayType => exact ⟨_, rfl⟩
  | stop id relayType => exact ⟨_, rfl⟩

/-- The sender of a request to pull is in the message. -/
theorem begin_pull {request : RelayRequest} {consumers : Nat} (h : request.relayType = .pull) :
    (request.begin consumers).own = false := by
  obtain ⟨event, hBegin⟩ := request.begin_eq consumers
  rw [hBegin, h, Relay.begin]
  split <;> rfl

/-- The sender of a request to push stays with the function. -/
theorem begin_push {request : RelayRequest} {consumers : Nat} (h : request.relayType = .push) :
    request.begin consumers = ⟨none, true, [], [], none⟩ := by
  obtain ⟨event, hBegin⟩ := request.begin_eq consumers
  rw [hBegin, h, Relay.begin]

theorem own_reached {request : RelayRequest} {consumers : Nat} (h : request.relayType = .pull)
    {c : Relay} (hReached : (request.system consumers).Reached c) : c.own = false := by
  refine System.Reached.invariant (I := fun c : Relay => c.own = false) ?_ ?_ hReached
  · rintro c rfl
    exact begin_pull h
  · intro c move c' hOwn hStep
    exact (Relay.own_step hStep).trans hOwn

/-- A request is sure to finish if and only if it is one to pull. -/
theorem finishes_iff_pull (request : RelayRequest) (consumers : Nat) :
    request.Finishes consumers ↔ request.relayType = .pull := by
  constructor
  · intro h
    cases hType : request.relayType with
    | pull => rfl
    | push =>
      have hOwn := h.elsewhere _ ⟨_, [], rfl, .nil _⟩ (congrArg Relay.outcome (begin_push hType))
      rw [begin_push hType] at hOwn
      cases hOwn
  · intro hType
    refine ⟨.of_measure Relay.todo (fun c move c' => Relay.todo_step) ?_, ?_⟩
    · intro c hReached hWaits
      exact Relay.exists_step (own_reached hType hReached) (Option.not_isSome_iff_eq_none.mp hWaits)
    · intro c hReached _
      exact own_reached hType hReached

/-- A request to push waits for ever: nothing can happen, and there is no outcome. -/
theorem push_waits (request : RelayRequest) (consumers : Nat) (h : request.relayType = .push)
    (move : Relay.Move) : (request.begin consumers).step move = none := by
  rw [begin_push h]
  cases move <;> rfl

/-- The request to push a stream to another server. -/
theorem push_request_stalls : ¬∀ (request : RelayRequest) (consumers : Nat),
    request.Finishes consumers := by
  intro h
  have hFinishes := h (.start "1" (.rtmp "live" "cam") "10.0.0.2:1935" .push) 1
  have hOutcome := hFinishes.terminates.final _ ⟨_, [], rfl, .nil _⟩ fun move c' hStep => by
    have hNone := push_waits (.start "1" (.rtmp "live" "cam") "10.0.0.2:1935" .push) 1 rfl move
    exact nomatch hNone.symm.trans hStep
  cases hOutcome

end RelayRequest

end Xiu.StreamHub
