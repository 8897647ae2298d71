import Xiu.ProofKit.Resume
import Xiu.Rtmp.Chunk.Wire

/-! Whole messages: what a message says, the head of a chunk that begins one, and the calls of
`read_chunk` that give one message after the other. -/

namespace Xiu.Rtmp.Chunk

open Bytesio ProofKit ChunkUnpacketizer

/-- What a message says, whatever chunks it is sent in. -/
structure MessageContent where
  csid : UInt32
  timestamp : UInt32
  msgTypeId : UInt8
  msgStreamId : UInt32
  payload : List UInt8
  deriving DecidableEq

def ChunkInfo.content (chunkInfo : ChunkInfo) : MessageContent where
  csid := chunkInfo.basicHeader.chunkStreamId
  timestamp := chunkInfo.messageHeader.timestamp
  msgTypeId := chunkInfo.messageHeader.msgTypeId
  msgStreamId := chunkInfo.messageHeader.msgStreamdId
  payload := chunkInfo.payload

/-- A message whose length fits the three bytes of a header. -/
structure SizedMessage extends MessageContent where
  short : payload.length < 2 ^ 24

namespace SizedMessage

def msgLength (m : SizedMessage) : UInt32 := .ofNat m.payload.length

def header (m : SizedMessage) : ChunkMessageHeader :=
  .new m.timestamp m.msgLength m.msgTypeId m.msgStreamId

theorem msgLength_toNat (m : SizedMessage) : m.msgLength.toNat = m.payload.length :=
  UInt32.toNat_ofNat_of_lt' (by have := m.short; rw [UInt32.size]; omega)

end SizedMessage

/-- The calls of `read_chunk` until one fails. -/
def messagePump : Pump ChunkUnpacketizer ChunkInfo UnpackFault where
  step := fun self =>
    match readChunk self with
    | .ok (.chunkInfo chunkInfo) self' => .goes [chunkInfo] self'
    | .ok _ self' => .goes [] self'
    | .error e self' => .stops [] e self'
  measure := unread
  decreases := fun self out self' h => by
    split at h
    · cases h
      exact readChunk_ok ‹_›
    · cases h
      exact readChunk_ok ‹_›
    · cases h

/-- The messages that are read before a read fails. -/
def readMessages (self : ChunkUnpacketizer) : List ChunkInfo := (messagePump.run self).1

theorem readMessages_cons {self self' : ChunkUnpacketizer} {chunkInfo : ChunkInfo}
    (h : readChunk self = .ok (.chunkInfo chunkInfo) self') :
    readMessages self = chunkInfo :: readMessages self' := by
  have hStep : messagePump.step self = .goes [chunkInfo] self' := by
    simp only [messagePump, h]
  exact congrArg Prod.fst (Pump.run_goes hStep)

/-- A call that gives something else is followed by the next one. -/
theorem readMessages_other {self self' : ChunkUnpacketizer} {result : UnpackResult}
    (h : readChunk self = .ok result self') (hOther : ∀ chunkInfo, result ≠ .chunkInfo chunkInfo) :
    readMessages self = readMessages self' := by
  have hStep : messagePump.step self = .goes [] self' := by
    cases result with
    | chunkInfo chunkInfo => exact absurd rfl (hOther chunkInfo)
    | _ => simp only [messagePump, h]
  exact congrArg Prod.fst (Pump.run_goes hStep)

theorem readMessages_error {self self' : ChunkUnpacketizer} {e : UnpackFault}
    (h : readChunk self = .error e self') : readMessages self = [] := by
  have hStep : messagePump.step self = .stops [] e self' := by
    simp only [messagePump, h]
  exact congrArg Prod.fst (Pump.run_stops hStep)

theorem readChunk_nil {self : ChunkUnpacketizer} (hState : self.chunkReadState = .readBasicHeader)
    (h : self.buffer = []) : readChunk self = .error .notEnoughBytes self :=
  loopM_error (readChunkTurn_basicHeader_error hState (readBasicHeader_nil h))

end Xiu.Rtmp.Chunk
