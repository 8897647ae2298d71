import Xiu.ProofKit.Action
import Xiu.Rtmp.CommandWriters
import Xiu.StreamHub.Define

/-! What the server's and the client's sessions of RTMP have in common, of
`protocol/rtmp/src/session/common.rs`: how they publish to the hub and subscribe from it, and what
they tell it when they leave.  The frames that pass through a session are not modelled. -/

namespace Xiu.Rtmp.Session

open ProofKit StreamHub Flv.Amf0

inductive SessionType where
  | client
  | server
  deriving DecidableEq

/-- An event that the session has sent to the hub, and the hub's answer if it is waited for. -/
structure Sent where
  event : StreamHubEvent
  accepted : Bool
  deriving DecidableEq

structure Common where
  sessionId : Uuid
  sessionType : SessionType
  remoteAddr : Option String
  sent : List Sent
  deriving DecidableEq

/-- How the handling of a message is left before its end. -/
inductive Stop where
  | error
  | panic
  deriving DecidableEq

/-- What a session finds while it handles a message: whether the hub takes its events and what it
answers, which writes to the connection succeed, by how many have before, and where the handling of a
media message stops, if it does. -/
structure Surroundings where
  hubListens : Bool
  accepted : Bool
  flushed : Nat → Bool
  media : Option Stop

def orPanic {σ α : Type} : Option α → EStateM Stop σ α
  | some a => pure a
  | none => throw .panic

/-- The text of a value, or nothing. -/
def asText : Amf0ValueType → Option String
  | .utf8String value => some value
  | _ => none

def asNumber : Amf0ValueType → Option UInt64
  | .number bits => some bits
  | _ => none

def asBoolean : Amf0ValueType → Option Bool
  | .boolean value => some value
  | _ => none

def asObject : Amf0ValueType → Option (List (String × Amf0ValueType))
  | .object obj => some obj
  | _ => none

/-- `Vec::remove(0)`, which panics for an empty list. -/
def removeFirst : List Amf0ValueType → Option (Amf0ValueType × List Amf0ValueType)
  | [] => none
  | v :: rest => some (v, rest)

/-- The connection of a session, by what has been written to it beside media. -/
structure Io where
  written : List Written

namespace Io

variable (w : Surroundings)

/-- A message is written and flushed. -/
def write (message : Written) : EStateM Stop Io Unit := do
  let io ← get
  if w.flushed io.written.length then
    set (⟨io.written ++ [message]⟩ : Io)
  else
    throw .error

/-- Messages are written one after the other. -/
def writeAll : List Written → EStateM Stop Io Unit
  | [] => pure ()
  | message :: rest => do
    write w message
    writeAll rest

variable {w}

/-- Messages are written when each of the writes succeeds. -/
theorem writeAll_flushed {messages : List Written} {io : Io}
    (h : ∀ i < messages.length, w.flushed (io.written.length + i) = true) :
    writeAll w messages io = .ok () ⟨io.written ++ messages⟩ := by
  induction messages generalizing io with
  | nil =>
    rw [List.append_nil]
    rfl
  | cons message rest ih =>
    have hFirst : write w message io = .ok () ⟨io.written ++ [message]⟩ := by
      have hFlushed := h 0 (by simp)
      rw [Nat.add_zero] at hFlushed
      simp only [write, bind_get, hFlushed, if_true]
      rfl
    rw [writeAll, bind_of_ok hFirst, ih, List.append_assoc, List.singleton_append]
    intro i hLt
    have hNext := h (i + 1) (by simpa using hLt)
    rw [Nat.add_comm i 1, ← Nat.add_assoc] at hNext
    simpa using hNext

/-- And only then. -/
theorem writeAll_ok {messages : List Written} {io : Io} :
    (∃ io1, writeAll w messages io = .ok () io1) ↔
      ∀ i < messages.length, w.flushed (io.written.length + i) = true := by
  refine ⟨?_, fun h => ⟨_, writeAll_flushed h⟩⟩
  induction messages generalizing io with
  | nil => exact fun _ i hLt => absurd hLt (Nat.not_lt_zero i)
  | cons message rest ih =>
    rintro ⟨io2, hAll⟩ i hLt
    obtain ⟨u, io1, hWrite, hRest⟩ := bind_eq_ok hAll
    simp only [write, bind_get] at hWrite
    split at hWrite
    · rename_i hFlushed
      cases hWrite
      cases i with
      | zero => exact hFlushed
      | succ i =>
        have hNext := ih ⟨io2, hRest⟩ i (by simpa using hLt)
        rw [List.length_append, List.length_singleton, Nat.add_assoc, Nat.add_comm 1 i] at hNext
        exact hNext
    · cases hWrite

end Io

namespace Common

variable (w : Surroundings) (appName streamName : String)

def getSubscriberInfo (self : Common) : SubscriberInfo :=
  ⟨self.sessionId, match self.sessionType with
    | .client => .rtmpRelay
    | .server => .rtmpPull, .frame⟩

def getPublisherInfo (self : Common) : PublisherInfo :=
  ⟨self.sessionId, match self.sessionType with
    | .client => .rtmpRelay
    | .server => .rtmpPush, .frame⟩

def send (event : StreamHubEvent) (accepted : Bool) : EStateM Stop Common Unit :=
  modify fun self => { self with sent := self.sent ++ [⟨event, accepted⟩] }

/-- With a subscription the hub gives a sender of statistics, and the address of the peer is
unwrapped for it.  To a subscriber of frames it gives a receiver of frames. -/
def subscribeFromStreamHub : EStateM Stop Common Unit := do
  let self ← get
  if w.hubListens then
    send (.subscribe (.rtmp appName streamName) self.getSubscriberInfo) w.accepted
    if w.accepted then
      let _ ← orPanic self.remoteAddr
    else
      throw .error
  else
    throw .error

/-- A failure is logged, and no more. -/
def unsubscribeFromStreamHub : EStateM Stop Common Unit := do
  let self ← get
  if w.hubListens then
    send (.unSubscribe (.rtmp appName streamName) self.getSubscriberInfo) true

/-- To a publisher of frames that it accepts the hub gives a sender of frames. -/
def publishToStreamHub : EStateM Stop Common Unit := do
  let self ← get
  if w.hubListens then
    send (.publish (.rtmp appName streamName) self.getPublisherInfo) w.accepted
    if w.accepted then pure () else throw .error
  else
    throw .error

def unpublishToStreamHub : EStateM Stop Common Unit := do
  let self ← get
  if w.hubListens then
    send (.unPublish (.rtmp appName streamName) self.getPublisherInfo) true
  else
    throw .error

end Common

end Xiu.Rtmp.Session
