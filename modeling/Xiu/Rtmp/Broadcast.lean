import Xiu.Rtmp.Remuxer.Calls
import Xiu.Rtmp.Session.ServerSpeech
import Xiu.StreamHub.Feeds
import Xiu.StreamHub.Loops

/-! The way of a stream through the server: what the publisher's session hears becomes frames for the hub, the
hub hands them to the subscribers, and the session of a player sends them on. -/

namespace Xiu.Rtmp

open ProofKit StreamHub Messages Chunk Session
open Remuxer.RemuxerSession (send_ok send_error)

/-! ### The publisher's session -/

/-- What becomes of a message: a frame, or nothing for the hub. -/
def Heard.frame (heard : Heard) : Option FrameData :=
  match heard.data with
  | .ok (some (.audioData data)) => some (.audio heard.timestamp data)
  | .ok (some (.videoData data)) => some (.video heard.timestamp data)
  | .ok (some (.amfData rawData)) => some (.metaData heard.timestamp rawData)
  | _ => none

/-- The frame that comes from the publisher. -/
def frameOf : FeedMove → Option FrameData
  | .frame frame => some frame
  | _ => none

/-- A frame that is handed on to subscribers. -/
def media : FrameData → Option FrameData
  | .metaData _ _ => none
  | frame => some frame

variable {digest : String → String} {auth : Option Xiu.Common.Auth}

end Xiu.Rtmp
