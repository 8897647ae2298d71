import Xiu.Rtmp.Relay

/-! The manager of the sessions that pull streams over RTSP, of
`protocol/rtsp/src/relay/pull_client_manager.rs`, and the loops of all relay clients: what ends them. -/

namespace Xiu.Rtsp.Relay

open ProofKit StreamHub

/-- A session that has been started: its `is_running` flag, which a stop clears, and whether its `run`
has ended. -/
structure Pull where
  id : String
  isRunning : Bool
  ended : Bool
  deriving DecidableEq

structure RtspPullClientManager where
  /-- The sessions to stop, by their number. -/
  clients : Table String Nat
  pulls : List Pull
  /-- The results that have been sent. -/
  replies : List RelayResult

namespace RtspPullClientManager

def new : RtspPullClientManager := ⟨∅, [], []⟩

/-- A message, and the outcome of the connection that it causes, if any. -/
structure Input where
  message : Broadcast
  connected : Except String Unit

/-- `sender.send(result).await`; a failure is logged, and no more. -/
def reply (result : RelayResult) : EStateM Left RtspPullClientManager Unit :=
  modify fun self => { self with replies := self.replies ++ [result] }

def replyError (text : String) : EStateM Left RtspPullClientManager Unit :=
  reply (.error (.rtspClientSessionError text))

/-- `result_sender.unwrap()`. -/
def unwrapSender (message : Broadcast) : EStateM Left RtspPullClientManager Unit :=
  if message.resultSender then pure () else throw .panicked

/-- A session is entered under its identifier and runs in a task of its own. -/
def startPull (id : String) : EStateM Left RtspPullClientManager Unit :=
  modify fun self => { self with
    clients := self.clients.insert id self.pulls.length
    pulls := self.pulls ++ [⟨id, true, false⟩] }

def onSubscribe (connected : Except String Unit) (id : String) (identifier : StreamIdentifier)
    (serverAddress : Option String) : EStateM Left RtspPullClientManager Unit := do
  let self ← get
  match identifier, serverAddress with
  | .rtsp streamPath, some _ =>
    if (self.clients.lookup id).isSome then
      replyError ("stream " ++ streamPath ++ " exists.")
    else
      match connected with
      | .ok () => do
        startPull id
        reply (.ok ())
      | .error text => replyError text
  | .rtsp _, none => replyError "The Rtsp subscribe parameters does not contain server address"
  | _, _ => pure ()

/-- The session is told to stop, and taken off. -/
def stopPull (id : String) (session : Nat) : EStateM Left RtspPullClientManager Unit :=
  modify fun self => { self with
    clients := self.clients.erase id
    pulls := self.pulls.modify session fun pull => { pull with isRunning := false } }

/-- A stop that succeeds is answered by dropping its sender. -/
def onUnSubscribe (id : String) : EStateM Left RtspPullClientManager Unit := do
  let self ← get
  match self.clients.lookup id with
  | some session => stopPull id session
  | none => replyError "the client session not exists"

/-- A turn of the loop. -/
def handle (input : Input) : EStateM Left RtspPullClientManager Unit :=
  match input.message.event with
  | .subscribe id identifier serverAddress => do
    unwrapSender input.message
    onSubscribe input.connected id identifier serverAddress
  | .unSubscribe id => do
    unwrapSender input.message
    onUnSubscribe id
  | .publish _ => pure ()

def run (inputs : List Input) : EStateM Left RtspPullClientManager Unit := handleAll handle inputs

/-! ### What ends the loop -/

/-- A result is asked for, unless it is a publication that is told. -/
def Answerable (input : Input) : Prop :=
  match input.message.event with
  | .publish _ => True
  | _ => input.message.resultSender = true

theorem onSubscribe_ok (connected : Except String Unit) (id : String) (identifier : StreamIdentifier)
    (serverAddress : Option String) (self : RtspPullClientManager) :
    ∃ self', onSubscribe connected id identifier serverAddress self = .ok () self' := by
  simp only [onSubscribe, bind_get]
  split
  · split
    · exact ⟨_, rfl⟩
    · cases connected <;> exact ⟨_, rfl⟩
  · exact ⟨_, rfl⟩
  · exact ⟨_, rfl⟩

theorem onUnSubscribe_ok (id : String) (self : RtspPullClientManager) :
    ∃ self', onUnSubscribe id self = .ok () self' := by
  simp only [onUnSubscribe, bind_get]
  cases self.clients.lookup id <;> exact ⟨_, rfl⟩

/-- The sender decides when what follows does not fail. -/
theorem unwrapSender_bind_ok {message : Broadcast} {next : EStateM Left RtspPullClientManager Unit}
    (h : ∀ self, ∃ self', next self = .ok () self') (self : RtspPullClientManager) :
    (∃ self', (unwrapSender message >>= fun _ => next) self = .ok () self') ↔
      message.resultSender = true := by
  rw [unwrapSender]
  cases message.resultSender with
  | true => exact iff_of_true (h self) rfl
  | false => exact iff_of_false (fun ⟨self', hOk⟩ => nomatch hOk) Bool.false_ne_true

theorem handle_ok_iff (input : Input) (self : RtspPullClientManager) :
    (∃ self', handle input self = .ok () self') ↔ Answerable input := by
  simp only [handle, Answerable]
  cases input.message.event with
  | publish identifier => exact iff_of_true ⟨self, rfl⟩ trivial
  | subscribe id identifier serverAddress => exact unwrapSender_bind_ok (onSubscribe_ok _ _ _ _) self
  | unSubscribe id => exact unwrapSender_bind_ok (onUnSubscribe_ok id) self

end RtspPullClientManager

/-- Every loop of a relay client goes on, and acts on the events that concern it, if and only if: for
the clients of RTMP, the connections for these events come about; for the manager of RTSP, every
subscription and every stop asks for a result. -/
theorem relay_loops_survive_iff (client : Rtmp.Relay.Client) (inputs : List Rtmp.Relay.Input)
    (self : RtspPullClientManager) (requests : List RtspPullClientManager.Input) :
    ((∃ client', Rtmp.Relay.PushClient.run inputs client = .ok () client' ∧
        client'.sessions = client.sessions ++
          inputs.filterMap fun input => Rtmp.Relay.PushClient.stream input.message) ↔
      ∀ input ∈ inputs, Rtmp.Relay.Reachable Rtmp.Relay.PushClient.stream input) ∧
    ((∃ client', Rtmp.Relay.PullClient.run inputs client = .ok () client' ∧
        client'.sessions = client.sessions ++
          inputs.filterMap fun input => Rtmp.Relay.PullClient.stream input.message) ↔
      ∀ input ∈ inputs, Rtmp.Relay.Reachable Rtmp.Relay.PullClient.stream input) ∧
    ((∃ self', RtspPullClientManager.run requests self = .ok () self') ↔
      ∀ input ∈ requests, RtspPullClientManager.Answerable input) := by
  have hClient : ∀ stream : Broadcast → Option (String × String),
      (∃ client', handleAll (Rtmp.Relay.handle stream) inputs client = .ok () client' ∧
        client'.sessions = client.sessions ++ inputs.filterMap fun input => stream input.message) ↔
      ∀ input ∈ inputs, Rtmp.Relay.Reachable stream input := by
    intro stream
    rw [← handleAll_ok_iff Rtmp.Relay.handle_ok_iff (s := client)]
    constructor
    · rintro ⟨client', hOk, -⟩
      exact ⟨client', hOk⟩
    · rintro ⟨client', hOk⟩
      exact ⟨client', hOk, Rtmp.Relay.sessions_started hOk⟩
  exact ⟨hClient _, hClient _, handleAll_ok_iff RtspPullClientManager.handle_ok_iff⟩

/-- A player that asks for a stream that is not there ends the manager of RTSP, when the hub is told
to pull streams over RTMP. -/
theorem rtmp_pull_ends_rtsp_manager :
    ¬∀ (hub : StreamsHub) (connected : Except String Unit), StreamsHub.system.Reached hub →
      ∃ self', RtspPullClientManager.run
        (hub.broadcasts.map fun event => ⟨event.message, connected⟩) .new = .ok () self' := by
  intro h
  let info : SubscriberInfo := ⟨Uuid.new .four 1700000000 fun _ => 0, .rtmpPull, .frame⟩
  obtain ⟨hub, hReached, hBroadcasts⟩ := @StreamsHub.exists_reached false false true
    false [.post (.subscribe (.rtmp "live" "cam") info),
      .take (.subscribe (.rtmp "live" "cam") info) true]
    (fun hub => hub.broadcasts = [.subscribe "rtmp_relay" (.rtmp "live" "cam") none])
    (by decide +kernel)
  obtain ⟨self', hOk⟩ := h hub (.ok ()) hReached
  rw [hBroadcasts] at hOk
  cases hOk

end Xiu.Rtsp.Relay
