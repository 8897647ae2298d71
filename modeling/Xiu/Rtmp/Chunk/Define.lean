import Mathlib.Data.List.AList

/-! The data of the RTMP chunk stream, of `protocol/rtmp/src/chunk`: the headers of a chunk, the
chunk that a reader or a writer handles, and the constants. -/

namespace Xiu.Rtmp.Chunk

structure ChunkBasicHeader where
  format : UInt8
  chunkStreamId : UInt32
  deriving DecidableEq

/-- Which chunk format the extended timestamp in force was read in, if any. -/
inductive ExtendTimestampType where
  | none
  | format0
  | format12
  deriving DecidableEq

structure ChunkMessageHeader where
  timestamp : UInt32
  msgLength : UInt32
  msgTypeId : UInt8
  msgStreamdId : UInt32
  timestampDelta : UInt32
  extendedTimestampType : ExtendTimestampType
  deriving DecidableEq

def ChunkMessageHeader.new (timestamp msgLength : UInt32) (msgTypeId : UInt8)
    (msgStreamId : UInt32) : ChunkMessageHeader where
  timestamp := timestamp
  msgLength := msgLength
  msgTypeId := msgTypeId
  msgStreamdId := msgStreamId
  timestampDelta := 0
  extendedTimestampType := .none

structure ChunkHeader where
  basicHeader : ChunkBasicHeader
  messageHeader : ChunkMessageHeader
  deriving DecidableEq

structure ChunkInfo where
  basicHeader : ChunkBasicHeader
  messageHeader : ChunkMessageHeader
  payload : List UInt8
  deriving DecidableEq

def ChunkInfo.new (csid : UInt32) (format : UInt8) (timestamp msgLength : UInt32)
    (msgTypeId : UInt8) (msgStreamId : UInt32) (payload : List UInt8) : ChunkInfo where
  basicHeader := ⟨format, csid⟩
  messageHeader := .new timestamp msgLength msgTypeId msgStreamId
  payload := payload

def CHUNK_SIZE : UInt32 := 4096
def INIT_CHUNK_SIZE : UInt32 := 128

/-- The message type whose messages change the chunk size. -/
def SET_CHUNK_SIZE : UInt8 := 1

end Xiu.Rtmp.Chunk
