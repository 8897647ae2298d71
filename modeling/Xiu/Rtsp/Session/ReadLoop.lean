import Xiu.Bytesio.Reading
import Xiu.Common.Http
import Xiu.ProofKit.Utf8

/-! The loops in which RTSP sessions read their connection, of
`protocol/rtsp/src/session/server_session.rs` and `protocol/rtsp/src/session/client_session.rs`:
requests and interleaved frames from one buffer.  A connection is the buffer and what the reads from
the network will give; a read after the last of them fails. -/

namespace Xiu.Rtsp.Session

open Bytesio Common ProofKit

structure Conn where
  buffer : List UInt8
  incoming : List (List UInt8)
  deriving DecidableEq

/-- `while self.reader.len() < n { .. }`: reads until so many bytes are there. -/
def Conn.fillFrom (n : Nat) : List UInt8 → List (List UInt8) → Option Conn
  | buffer, [] => if n ≤ buffer.length then some ⟨buffer, []⟩ else none
  | buffer, data :: rest =>
    if n ≤ buffer.length then some ⟨buffer, data :: rest⟩ else fillFrom n (buffer ++ data) rest

def Conn.fill (c : Conn) (n : Nat) : Option Conn := fillFrom n c.buffer c.incoming

structure InterleavedBinaryData where
  channelIdentifier : UInt8
  length : UInt16

/-- `BytesReader::advance_u8`: the first byte, left in place. -/
def advanceU8 : Read Unit UInt8 := fun s =>
  match s.reader.advanceBytes 1 with
  | .ok bytes => .ok (BytesReader.decodeU8 bytes) s
  | .error e => .error (.bytesReadError e) s

/-- `InterleavedBinaryData::new`: the head of a frame, behind a dollar sign. -/
def InterleavedBinaryData.new : Read Unit (Option InterleavedBinaryData) := do
  let first ← advanceU8
  if first = 0x24 then
    let _ ← Read.readU8
    let channelIdentifier ← Read.readU8
    let length ← Read.readU16 .bigEndian
    return some ⟨channelIdentifier, length⟩
  else
    return none

/-- What a session is given to handle. -/
inductive Message where
  | request (request : HttpRequest)
  | frame (channelIdentifier : UInt8) (payload : List UInt8)
  deriving DecidableEq

/-- What a turn of a read loop comes to, before what it has read is handled: the loop is left with an
error, nothing is read, or a message is. -/
inductive Turn where
  | left
  | idle (c : Conn)
  | message (m : Message) (c : Conn)
  deriving DecidableEq

/-- The header `Content-Length` announces more than the body that is there, or there is none. -/
def bodyMissing (request : HttpRequest) : Bool :=
  match (request.getHeader "Content-Length").bind fun length => parseUsize length.toList with
  | none => false
  | some n =>
    match request.body with
    | none => true
    | some body => n > body.utf8ByteSize

/-- The loop of `on_rtsp_message`: everything that is in the buffer is the request. -/
def onRtspMessage : Nat → List UInt8 → List (List UInt8) → Turn
  | retryCount, buffer, incoming =>
    match decodeUtf8 buffer with
    | none => .left
    | some data =>
      match HttpRequest.unmarshal data with
      | none => .idle ⟨buffer, incoming⟩
      | some request =>
        if bodyMissing request then
          if retryCount ≥ 5 then
            .idle ⟨buffer, incoming⟩
          else
            match incoming with
            | [] => .left
            | data :: rest => onRtspMessage (retryCount + 1) (buffer ++ data) rest
        else
          .message (.request request) ⟨[], incoming⟩
  termination_by structural _ _ incoming => incoming

/-- The payload of a frame, of a length for which there are bytes enough or not. -/
def readFrame (c : Conn) (a : InterleavedBinaryData) : Turn :=
  match (⟨c.buffer⟩ : BytesReader).readBytes a.length.toNat with
  | .error _ => .left
  | .ok (payload, reader) => .message (.frame a.channelIdentifier payload) ⟨reader.buffer, c.incoming⟩

/-- A turn of the loop of `RtspServerSession::run`. -/
def serverTurn (c : Conn) : Turn :=
  match c.fill 4 with
  | none => .left
  | some c =>
    match InterleavedBinaryData.new ⟨(), ⟨c.buffer⟩⟩ with
    | .error _ s => .idle ⟨s.reader.buffer, c.incoming⟩
    | .ok (some a) s =>
      match Conn.fill ⟨s.reader.buffer, c.incoming⟩ a.length.toNat with
      | none => .left
      | some c => readFrame c a
    | .ok none s => onRtspMessage 0 s.reader.buffer c.incoming

/-- A turn of the receive loop of `RtspClientSession::run`.  What is no frame is left in the buffer,
and one read must do for the payload. -/
def clientTurn (c : Conn) : Turn :=
  match c.fill 4 with
  | none => .left
  | some c =>
    match InterleavedBinaryData.new ⟨(), ⟨c.buffer⟩⟩ with
    | .error _ s => .idle ⟨s.reader.buffer, c.incoming⟩
    | .ok (some a) s =>
      if s.reader.buffer.length < a.length.toNat then
        match c.incoming with
        | [] => .left
        | data :: rest => readFrame ⟨s.reader.buffer ++ data, rest⟩ a
      else
        readFrame ⟨s.reader.buffer, c.incoming⟩ a
    | .ok none s => .idle ⟨s.reader.buffer, c.incoming⟩

end Xiu.Rtsp.Session
