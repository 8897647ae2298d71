import Xiu.StreamHub.Transceiver
import Xiu.ProofKit.System

/-! The stream hub, of `StreamsHub` in `library/streamhub/src/lib.rs`: the loop that takes the events
of sessions, the tasks of the streams, to which it passes events over channels, and the steps of
all of them. -/

namespace Xiu.StreamHub

open ProofKit

/-- Where the task that `receive_event_loop` spawns is: in its loop; past it, or stopped by a panic,
with its channel still open; or gone, with its channel closed. -/
inductive Phase where
  | receiving
  | left
  | gone
  deriving DecidableEq

/-- A stream's task with the events that wait in its channel.  `publisher` is the publisher whose
event made the stream: the code does not keep it. -/
structure StreamTask where
  publisher : PublisherInfo
  transceiver : StreamDataTransceiver
  events : List TransceiverEvent
  phase : Phase

/-- What the loop of the hub waits for before it takes its next event. -/
inductive Waiting where
  | subscription (task : Nat) (identifier : StreamIdentifier) (info : SubscriberInfo)
      (answer : Option (Except StreamHubErrorValue Unit))
  | statistics (receiver : Channel) (missing : Nat)
  | relay
  deriving DecidableEq

/-- The messages to the clients that relay streams. -/
inductive BroadcastEvent where
  | publish (identifier : StreamIdentifier)
  | subscribe (id : String) (identifier : StreamIdentifier) (serverAddress : Option String)
  | unSubscribe (id : String)
  deriving DecidableEq

structure StreamsHub where
  /-- The streams, by the number of their task. -/
  streams : Table StreamIdentifier Nat
  /-- The events that kick clients off. -/
  unPubSubEvents : Table Uuid StreamHubEvent
  /-- The events that wait in the channel of the hub. -/
  hubEvents : List StreamHubEvent
  rtmpPushEnabled : Bool
  rtmpRemuxerEnabled : Bool
  rtmpPullEnabled : Bool
  hlsEnabled : Bool
  tasks : List StreamTask
  waiting : Option Waiting
  /-- The messages broadcast so far. -/
  broadcasts : List BroadcastEvent
  /-- How many channels for frames, packets and statistics have been made. -/
  channels : Nat

namespace StreamsHub

/-- A hub when it starts. -/
def new (rtmpPush rtmpRemuxer rtmpPull hls : Bool) : StreamsHub where
  streams := ∅
  unPubSubEvents := ∅
  hubEvents := []
  rtmpPushEnabled := rtmpPush
  rtmpRemuxerEnabled := rtmpRemuxer
  rtmpPullEnabled := rtmpPull
  hlsEnabled := hls
  tasks := []
  waiting := none
  broadcasts := []
  channels := 0

/-! ### Sending -/

/-- `producer.send(event)`: it fails once the channel is closed. -/
def sendTo (hub : StreamsHub) (task : Nat) (event : TransceiverEvent) : Option StreamsHub :=
  match hub.tasks[task]? with
  | none => none
  | some t =>
    match t.phase with
    | .gone => none
    | _ => some { hub with tasks := hub.tasks.set task { t with events := t.events ++ [event] } }

/-- `client_event_sender.send(event)`: it fails when nobody listens. -/
def broadcast (hub : StreamsHub) (listened : Bool) (event : BroadcastEvent) : Option StreamsHub :=
  if listened then some { hub with broadcasts := hub.broadcasts ++ [event] } else none

/-! ### The operations of the hub -/

def publish (hub : StreamsHub) (listened : Bool) (identifier : StreamIdentifier)
    (info : PublisherInfo) : StreamsHub × Except StreamHubErrorValue Unit :=
  match hub.streams.lookup identifier with
  | some _ => (hub, .error .exists_)
  | none =>
    let hub := { hub with
      tasks := hub.tasks ++ [⟨info, .new, [], .receiving⟩]
      streams := hub.streams.insert identifier hub.tasks.length }
    if hub.rtmpPushEnabled || hub.hlsEnabled || hub.rtmpRemuxerEnabled then
      match hub.broadcast listened (.publish identifier) with
      | some hub => (hub, .ok ())
      | none => (hub, .error .sendError)
    else (hub, .ok ())

def unpublish (hub : StreamsHub) (identifier : StreamIdentifier) :
    StreamsHub × Except StreamHubErrorValue Unit :=
  match hub.streams.lookup identifier with
  | some task =>
    match hub.sendTo task .unPublish with
    | some hub => ({ hub with streams := hub.streams.erase identifier }, .ok ())
    | none => (hub, .error .sendError)
  | none => (hub, .error .noAppName)

/-- `subscribe` up to the point where it waits for the task of the stream. -/
def subscribe (hub : StreamsHub) (listened : Bool) (identifier : StreamIdentifier)
    (info : SubscriberInfo) (sender : DataSender) : StreamsHub × Except StreamHubErrorValue Unit :=
  match hub.streams.lookup identifier with
  | some task =>
    match hub.sendTo task (.subscribe sender info) with
    | some hub => ({ hub with waiting := some (.subscription task identifier info none) }, .ok ())
    | none => (hub, .error .sendError)
  | none =>
    if hub.rtmpPullEnabled then
      match hub.broadcast listened (.subscribe "rtmp_relay" identifier none) with
      | some hub => (hub, .error .noAppOrStreamName)
      | none => (hub, .error .sendError)
    else (hub, .error .noAppOrStreamName)

def unsubscribe (hub : StreamsHub) (identifier : StreamIdentifier) (info : SubscriberInfo) :
    StreamsHub × Except StreamHubErrorValue Unit :=
  match hub.streams.lookup identifier with
  | some task =>
    match hub.sendTo task (.unSubscribe info) with
    | some hub => (hub, .ok ())
    | none => (hub, .error .sendError)
  | none => (hub, .error .noAppName)

def request (hub : StreamsHub) (identifier : StreamIdentifier) :
    StreamsHub × Except StreamHubErrorValue Unit :=
  match hub.streams.lookup identifier with
  | some task =>
    match hub.sendTo task .request with
    | some hub => (hub, .ok ())
    | none => (hub, .error .sendError)
  | none => (hub, .ok ())

/-- The query for statistics to some streams, until one of them cannot be reached. -/
def sendApi (hub : StreamsHub) (sender : Channel) (uuid : Option Uuid) :
    List Nat → StreamsHub × Except StreamHubErrorValue Unit
  | [] => (hub, .ok ())
  | task :: tasks =>
    match hub.sendTo task (.api sender uuid) with
    | some hub => hub.sendApi sender uuid tasks
    | none => (hub, .error .sendError)

/-- The tasks that are asked for statistics: the one of a stream, if the hub has it, or all. -/
def asked (hub : StreamsHub) : Option StreamIdentifier → List Nat
  | some identifier => (hub.streams.lookup identifier).toList
  | none => hub.streams.entries.map Sigma.snd

/-- How many answers `api_statistic` collects. -/
def streamCount (hub : StreamsHub) : Option StreamIdentifier → Nat
  | some _ => 1
  | none => hub.streams.keys.length

/-- `api_statistic` up to the point where it waits for the statistics. -/
def apiStatistic (hub : StreamsHub) (identifier : Option StreamIdentifier) (uuid : Option Uuid) :
    StreamsHub × Except StreamHubErrorValue Unit :=
  if hub.streams.keys.isEmpty then (hub, .ok ())
  else
    match { hub with channels := hub.channels + 1 }.sendApi hub.channels uuid
        (hub.asked identifier) with
    | (hub1, .ok ()) => ({ hub1 with waiting := some (.statistics hub.channels (hub.streamCount identifier)) },
      .ok ())
    | (hub1, .error e) => (hub1, .error e)

/-- The hub sends the stored event to itself. -/
def apiKickOffClient (hub : StreamsHub) (id : Uuid) : StreamsHub :=
  match hub.unPubSubEvents.lookup id with
  | some (.unPublish identifier info) =>
    { hub with hubEvents := hub.hubEvents ++ [.unPublish identifier info] }
  | some (.unSubscribe identifier info) =>
    { hub with hubEvents := hub.hubEvents ++ [.unSubscribe identifier info] }
  | _ => hub

/-- `api_start_relay_stream` and `api_stop_relay_stream` up to the point where they wait for the
client that relays.  Only pulling is relayed; the other kind waits just as well, for a result that
nobody will send. -/
def apiRelay (hub : StreamsHub) (listened : Bool) (relayType : RelayType) (event : BroadcastEvent) :
    StreamsHub × Except StreamHubErrorValue Unit :=
  match relayType with
  | .pull =>
    match hub.broadcast listened event with
    | some hub => ({ hub with waiting := some .relay }, .ok ())
    | none => (hub, .error .sendError)
  | .push => ({ hub with waiting := some .relay }, .ok ())

/-- The sender of a new channel to a subscriber. -/
def newSender (hub : StreamsHub) : SubDataType → DataSender
  | .frame => .frame hub.channels
  | .packet => .packet hub.channels

/-- What the hub does with an event, as far as it comes without waiting. -/
def handle (hub : StreamsHub) (listened : Bool) : StreamHubEvent → StreamsHub
  | .publish identifier info =>
    match hub.publish listened identifier info with
    | (hub, .ok ()) =>
      { hub with unPubSubEvents := hub.unPubSubEvents.insert info.id (.unPublish identifier info) }
    | (hub, .error _) => hub
  | .unPublish identifier _ => (hub.unpublish identifier).1
  | .subscribe identifier info =>
    ({ hub with channels := hub.channels + 1 }.subscribe listened identifier info
      (hub.newSender info.subDataType)).1
  | .unSubscribe identifier info => (hub.unsubscribe identifier info).1
  | .apiStatistic _ identifier uuid => (hub.apiStatistic identifier uuid).1
  | .apiKickClient id => hub.apiKickOffClient id
  | .apiStartRelayStream id identifier serverAddress relayType =>
    (hub.apiRelay listened relayType (.subscribe id identifier (some serverAddress))).1
  | .apiStopRelayStream id relayType =>
    (hub.apiRelay listened relayType (.unSubscribe id)).1
  | .request identifier => (hub.request identifier).1
  | .onHls _ => hub

/-! ### The tasks -/

/-- The answer to the subscription that the hub waits for. -/
def answer (hub : StreamsHub) (result : Except StreamHubErrorValue Unit) : StreamsHub :=
  match hub.waiting with
  | some (.subscription task identifier info none) =>
    { hub with waiting := some (.subscription task identifier info (some result)) }
  | _ => hub

/-- What the hub gets from a task that has gone round its loop with an event. -/
def reply (hub : StreamsHub) : TransceiverEvent → StreamsHub
  | .subscribe _ _ => hub.answer (.ok ())
  | .api sender _ =>
    match hub.waiting with
    | some (.statistics receiver missing) =>
      if sender = receiver then { hub with waiting := some (.statistics receiver (missing - 1)) }
      else hub
    | _ => hub
  | _ => hub

/-- A task takes the event at the head of its channel.  A loop that ends drops the sender with which
the event was to be answered. -/
def serve (hub : StreamsHub) (task : Nat) (t : StreamTask) (event : TransceiverEvent)
    (prior : Except StreamHubErrorValue Unit) : StreamsHub :=
  match t.transceiver.receiveEvent prior event with
  | .next transceiver =>
    { hub with tasks := hub.tasks.set task { t with transceiver } }.reply event
  | .leave transceiver =>
    let hub := { hub with tasks := hub.tasks.set task { t with transceiver, phase := .left } }
    match event with
    | .subscribe _ _ => hub.answer (.error .recvError)
    | _ => hub
  | .panic transceiver =>
    { hub with tasks := hub.tasks.set task { t with transceiver, phase := .left } }

/-- A task whose loop has ended closes its channel, with all that waits in it. -/
def close (hub : StreamsHub) (task : Nat) (t : StreamTask) : StreamsHub :=
  let closed := { hub with tasks := hub.tasks.set task { t with events := [], phase := .gone } }
  match hub.waiting with
  | some (.subscription waited _ _ none) =>
    if waited = task then closed.answer (.error .recvError) else closed
  | _ => closed

/-- The hub goes on with the answer to a subscription. -/
def conclude (hub : StreamsHub) (identifier : StreamIdentifier) (info : SubscriberInfo) :
    Except StreamHubErrorValue Unit → StreamsHub
  | .ok () =>
    { hub with
      waiting := none
      unPubSubEvents := hub.unPubSubEvents.insert info.id (.unSubscribe identifier info) }
  | .error _ => { hub with waiting := none }

/-! ### Steps -/

/-- A session sends an event; the hub takes one, and the clients listen or not; a task takes one, and
`send_prior_data` succeeds or not; a task closes its channel; the hub goes on after it has waited. -/
inductive Move where
  | post (event : StreamHubEvent)
  | take (event : StreamHubEvent) (listened : Bool)
  | serve (task : Nat) (event : TransceiverEvent) (prior : Except StreamHubErrorValue Unit)
  | close (task : Nat)
  | resume
  deriving DecidableEq

def step (hub : StreamsHub) : Move → Option StreamsHub
  | .post event => some { hub with hubEvents := hub.hubEvents ++ [event] }
  | .take event listened =>
    match hub.waiting, hub.hubEvents with
    | none, first :: rest =>
      if first = event then some ({ hub with hubEvents := rest }.handle listened event) else none
    | _, _ => none
  | .serve task event prior =>
    match hub.tasks[task]? with
    | none => none
    | some t =>
      match t.phase, t.events with
      | .receiving, first :: rest =>
        if first = event then some (hub.serve task { t with events := rest } event prior) else none
      | _, _ => none
  | .close task =>
    match hub.tasks[task]? with
    | none => none
    | some t =>
      match t.phase with
      | .left => some (hub.close task t)
      | _ => none
  | .resume =>
    match hub.waiting with
    | some (.subscription _ identifier info (some answer)) =>
      some (hub.conclude identifier info answer)
    | some (.statistics _ 0) => some { hub with waiting := none }
    | some .relay => some { hub with waiting := none }
    | _ => none

/-- The hub with its tasks and the sessions that send to it. -/
def system : System StreamsHub Move where
  init hub := ∃ rtmpPush rtmpRemuxer rtmpPull hls, hub = new rtmpPush rtmpRemuxer rtmpPull hls
  step hub move hub' := hub.step move = some hub'

/-- The hub after some steps. -/
def run (hub : StreamsHub) : List Move → Option StreamsHub
  | [] => some hub
  | move :: moves => (hub.step move).bind fun hub => hub.run moves

theorem run_run {hub hub' : StreamsHub} {moves : List Move} (h : hub.run moves = some hub') :
    system.Run hub moves hub' := by
  induction moves generalizing hub with
  | nil =>
    cases h
    exact .nil _
  | cons move moves ih =>
    obtain ⟨hub1, hStep, hRest⟩ := Option.bind_eq_some_iff.mp h
    exact .cons hStep (ih hRest)

theorem reached_run {hub : StreamsHub} {rtmpPush rtmpRemuxer rtmpPull hls : Bool}
    {moves : List Move} (h : (new rtmpPush rtmpRemuxer rtmpPull hls).run moves = some hub) :
    system.Reached hub :=
  ⟨_, moves, ⟨rtmpPush, rtmpRemuxer, rtmpPull, hls, rfl⟩, run_run h⟩

theorem exists_reached {rtmpPush rtmpRemuxer rtmpPull hls : Bool} {moves : List Move}
    {p : StreamsHub → Prop} (h : ∃ hub ∈ (new rtmpPush rtmpRemuxer rtmpPull hls).run moves, p hub) :
    ∃ hub, system.Reached hub ∧ p hub := by
  obtain ⟨hub, hRun, hp⟩ := h
  exact ⟨hub, reached_run hRun, hp⟩

/-! ### What a step can be -/

theorem step_take {hub hub' : StreamsHub} {event : StreamHubEvent} {listened : Bool}
    (h : hub.step (.take event listened) = some hub') :
    ∃ rest, hub.waiting = none ∧ hub.hubEvents = event :: rest ∧
      hub' = { hub with hubEvents := rest }.handle listened event := by
  simp only [step] at h
  split at h
  · rename_i first rest hWaiting hEvents
    split at h
    · rename_i hFirst
      exact ⟨rest, hWaiting, hFirst ▸ hEvents, (Option.some.inj h).symm⟩
    · cases h
  · cases h

theorem step_serve {hub hub' : StreamsHub} {task : Nat} {event : TransceiverEvent}
    {prior : Except StreamHubErrorValue Unit}
    (h : hub.step (.serve task event prior) = some hub') :
    ∃ t rest, hub.tasks[task]? = some t ∧ t.phase = .receiving ∧ t.events = event :: rest ∧
      hub' = hub.serve task { t with events := rest } event prior := by
  simp only [step] at h
  split at h
  · cases h
  · rename_i t hTask
    split at h
    · rename_i first rest hPhase hEvents
      split at h
      · rename_i hFirst
        exact ⟨t, rest, hTask, hPhase, hFirst ▸ hEvents, (Option.some.inj h).symm⟩
      · cases h
    · cases h

theorem step_close {hub hub' : StreamsHub} {task : Nat} (h : hub.step (.close task) = some hub') :
    ∃ t, hub.tasks[task]? = some t ∧ t.phase = .left ∧ hub' = hub.close task t := by
  simp only [step] at h
  split at h
  · cases h
  · rename_i t hTask
    split at h
    · rename_i hPhase
      exact ⟨t, hTask, hPhase, (Option.some.inj h).symm⟩
    · cases h

theorem step_resume {hub hub' : StreamsHub} (h : hub.step .resume = some hub') :
    (∃ task identifier info answer,
      hub.waiting = some (.subscription task identifier info (some answer)) ∧
      hub' = hub.conclude identifier info answer) ∨
    (hub' = { hub with waiting := none } ∧ ∀ task identifier info answer,
      hub.waiting ≠ some (.subscription task identifier info answer)) := by
  simp only [step] at h
  split at h
  · rename_i task identifier info answer hWaiting
    exact .inl ⟨task, identifier, info, answer, hWaiting, (Option.some.inj h).symm⟩
  · rename_i hWaiting
    exact .inr ⟨(Option.some.inj h).symm, by simp [hWaiting]⟩
  · rename_i hWaiting
    exact .inr ⟨(Option.some.inj h).symm, by simp [hWaiting]⟩
  · cases h

end StreamsHub

end Xiu.StreamHub
