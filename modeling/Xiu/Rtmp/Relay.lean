import Xiu.ProofKit.Action
import Xiu.StreamHub.Relay

/-! The relay clients of RTMP, of `protocol/rtmp/src/relay/push_client.rs` and
`protocol/rtmp/src/relay/pull_client.rs`: loops that start a session for every event that concerns
them, unless the server cannot be reached. -/

namespace Xiu.Rtmp.Relay

open ProofKit StreamHub

/-- A message, and whether the connection that it causes, if any, comes about. -/
structure Input where
  message : Broadcast
  connects : Bool

/-- A client, by the address of its server and the streams for which it has started a session. -/
structure Client where
  address : String
  sessions : List (String × String)

/-- The stream of an event that concerns a client that pushes. -/
def PushClient.stream (message : Broadcast) : Option (String × String) :=
  match message.event with
  | .publish (.rtmp appName streamName) => some (appName, streamName)
  | _ => none

/-- The stream of an event that concerns a client that pulls. -/
def PullClient.stream (message : Broadcast) : Option (String × String) :=
  match message.event with
  | .subscribe _ (.rtmp appName streamName) _ => some (appName, streamName)
  | _ => none

section Client

variable (stream : Broadcast → Option (String × String))

/-- A turn of the loop: `TcpStream::connect(..).await?`, and a session in a task of its own. -/
def handle (input : Input) : EStateM Left Client Unit :=
  match stream input.message with
  | none => pure ()
  | some name =>
    if input.connects then
      modify fun client => { client with sessions := client.sessions ++ [name] }
    else
      throw .returned

/-- The connection for an event that concerns the client comes about. -/
def Reachable (input : Input) : Prop := (stream input.message).isSome → input.connects = true

variable {stream}

theorem handle_ok_iff (input : Input) (client : Client) :
    (∃ client', handle stream input client = .ok () client') ↔ Reachable stream input := by
  simp only [handle, Reachable]
  cases stream input.message with
  | none => simp
  | some name =>
    cases input.connects with
    | true => simp
    | false => simp

/-- A client that goes on has started a session for every event that concerns it. -/
theorem sessions_started {inputs : List Input} {client client' : Client}
    (h : handleAll (handle stream) inputs client = .ok () client') :
    client'.sessions = client.sessions ++ inputs.filterMap fun input => stream input.message := by
  induction inputs generalizing client with
  | nil =>
    cases h
    simp
  | cons input rest ih =>
    obtain ⟨u, client1, hFirst, hRest⟩ := bind_eq_ok h
    rw [ih hRest, List.filterMap_cons]
    simp only [handle] at hFirst
    cases hStream : stream input.message with
    | none =>
      rw [hStream] at hFirst
      cases hFirst
      rfl
    | some name =>
      rw [hStream] at hFirst
      dsimp only at hFirst
      split at hFirst
      · cases hFirst
        simp
      · cases hFirst

end Client

def PushClient.run (inputs : List Input) : EStateM Left Client Unit :=
  handleAll (handle PushClient.stream) inputs

def PullClient.run (inputs : List Input) : EStateM Left Client Unit :=
  handleAll (handle PullClient.stream) inputs

end Xiu.Rtmp.Relay
