import Mathlib.Algebra.Group.Nat.Defs
import Xiu.ProofKit.Serial

/-! The state of a source and its update, of `rtcp_context.rs`.  The jitter, which is a floating point
number that `update_sequence` neither reads nor writes, is left out. -/

namespace Xiu.Rtsp.Rtcp

/-- The way from one sequence number to another. -/
def distance (new old : UInt16) : UInt16 :=
  if new < old then 65535 - old + new + 1 else new - old

def MIN_SEQUENTIAL : UInt32 := 2
def RTP_SEQ_MOD : UInt32 := 65536
def MAX_DROPOUT : UInt16 := 3000
def MAX_MISORDER : UInt32 := 100

/-- An addition, which panics when the sum does not fit. -/
def addU16 (a b : UInt16) : Option UInt16 :=
  if a.toNat + b.toNat < 2 ^ 16 then some (a + b) else none

def addU32 (a b : UInt32) : Option UInt32 :=
  if a.toNat + b.toNat < 2 ^ 32 then some (a + b) else none

/-- A subtraction, which panics below zero. -/
def subU16 (a b : UInt16) : Option UInt16 := if b ≤ a then some (a - b) else none

structure RtcpSource where
  maxSeq : UInt16
  cycles : UInt32
  baseSeq : UInt32
  badSeq : UInt32
  probation : UInt32
  received : UInt32
  expectedPrior : UInt32
  receivedPrior : UInt32
  deriving DecidableEq

namespace RtcpSource

def initSeq (self : RtcpSource) (seq : UInt16) : RtcpSource :=
  { self with
    baseSeq := seq.toUInt32
    maxSeq := seq
    badSeq := RTP_SEQ_MOD + 1
    cycles := 0
    received := 0
    receivedPrior := 0
    expectedPrior := 0 }

/-- A packet is counted. -/
def count (self : RtcpSource) : Option (RtcpSource × Nat) :=
  (addU32 self.received 1).map fun received => ({ self with received }, 1)

/-- A packet on probation. -/
def onProbation (self : RtcpSource) (seq : UInt16) : Option (RtcpSource × Nat) :=
  (addU16 self.maxSeq 1).bind fun next =>
    if seq = next then
      let self := { self with probation := self.probation - 1, maxSeq := seq }
      if self.probation = 0 then (self.initSeq seq).count else some (self, 0)
    else some ({ self with probation := MIN_SEQUENTIAL - 1, maxSeq := seq }, 0)

/-- A packet in order, with a permissible gap. -/
def inOrder (self : RtcpSource) (seq : UInt16) : Option (RtcpSource × Nat) :=
  (if seq < self.maxSeq then addU32 self.cycles RTP_SEQ_MOD else some self.cycles).bind
    fun cycles => { self with cycles, maxSeq := seq }.count

/-- The update of a source, which tells whether the packet is valid. -/
def updateSequence (self : RtcpSource) (seq : UInt16) : Option (RtcpSource × Nat) :=
  let delta := distance seq self.maxSeq
  if self.probation > 0 then self.onProbation seq
  else if delta < MAX_DROPOUT then self.inOrder seq
  else if delta.toUInt32 ≤ RTP_SEQ_MOD - MAX_MISORDER then
    if seq = self.badSeq.toUInt16 then (self.initSeq seq).count
    else some ({ self with badSeq := (seq.toUInt32 + 1) &&& (RTP_SEQ_MOD - 1) }, 0)
  else self.count

end RtcpSource

/-- The fields of `RtcpContext` that its constructor is given. -/
structure RtcpContext where
  ssrc : UInt32
  source : RtcpSource
  sampleRate : UInt32

/-- `RtcpContext::new`, which panics when the first sequence number is 0. -/
def RtcpContext.new (ssrc : UInt32) (seq : UInt16) (sampleRate : UInt32) : Option RtcpContext :=
  (subU16 seq 1).map fun maxSeq =>
    { ssrc, source := ⟨maxSeq, 0, 0, 0, MIN_SEQUENTIAL, 0, 0, 0⟩, sampleRate }

end Xiu.Rtsp.Rtcp
