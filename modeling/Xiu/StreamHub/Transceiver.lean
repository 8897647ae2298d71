import Xiu.StreamHub.Define

/-! The subscribers of a stream and the loop that takes the events about it, of
`StreamDataTransceiver` in `library/streamhub/src/lib.rs`: when the count of subscribers is exact. -/

namespace Xiu.StreamHub

structure StreamDataTransceiver where
  idToFrameSender : Table Uuid Channel
  idToPacketSender : Table Uuid Channel
  subscriberCount : Nat

/-- How a turn of the loop ends. -/
inductive Turn where
  | next (t : StreamDataTransceiver)
  | leave (t : StreamDataTransceiver)
  | panic (t : StreamDataTransceiver)

namespace StreamDataTransceiver

def new : StreamDataTransceiver := ⟨∅, ∅, 0⟩

/-- `id_to_frame_sender.insert` or `id_to_packet_sender.insert` -/
def insertSender (t : StreamDataTransceiver) (id : Uuid) : DataSender → StreamDataTransceiver
  | .frame sender => { t with idToFrameSender := t.idToFrameSender.insert id sender }
  | .packet sender => { t with idToPacketSender := t.idToPacketSender.insert id sender }

/-- The removal of a subscriber from the map that the type of its subscription selects. -/
def removeSender (t : StreamDataTransceiver) (info : SubscriberInfo) : StreamDataTransceiver :=
  match info.subType with
  | .rtpPull | .whepPull => { t with idToPacketSender := t.idToPacketSender.erase info.id }
  | _ => { t with idToFrameSender := t.idToFrameSender.erase info.id }

/-- The map that gets the sender of a new subscriber. -/
def mapOf (t : StreamDataTransceiver) : DataSender → Table Uuid Channel
  | .frame _ => t.idToFrameSender
  | .packet _ => t.idToPacketSender

/-- The map from which a subscriber is removed. -/
def mapFrom (t : StreamDataTransceiver) (info : SubscriberInfo) : Table Uuid Channel :=
  match info.subType with
  | .rtpPull | .whepPull => t.idToPacketSender
  | _ => t.idToFrameSender

/-- One turn of `receive_event_loop`, with the result that `stream_handler.send_prior_data` gives if
it is called. -/
def receiveEvent (t : StreamDataTransceiver) (prior : Except StreamHubErrorValue Unit) :
    TransceiverEvent → Turn
  | .subscribe sender info =>
    match prior with
    | .error _ => .leave t
    | .ok () =>
      let t := t.insertSender info.id sender
      .next { t with subscriberCount := t.subscriberCount + 1 }
  | .unSubscribe info =>
    let t := t.removeSender info
    -- a subtraction from a `usize`
    if t.subscriberCount = 0 then .panic t
    else .next { t with subscriberCount := t.subscriberCount - 1 }
  | .unPublish => .leave t
  | .api _ _ => .next t
  | .request => .next t

end StreamDataTransceiver

end Xiu.StreamHub
