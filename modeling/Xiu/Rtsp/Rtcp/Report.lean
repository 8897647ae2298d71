import Xiu.Bytesio.Coding
import Xiu.Rtsp.Rtcp.Reception
import Xiu.Rtsp.Rtp.Packet

/-! The reports of a receiver, of `rtcp_context.rs` and `rtcp_rr.rs`: what a report block says after any
sequence of packets, sender reports and receiver reports. -/

namespace Xiu.Rtsp.Rtcp

open Bytesio ProofKit Bytesio.Read Rtp

/-! ### The report block -/

structure ReportBlock where
  ssrc : UInt32
  fractionLost : UInt8
  cumutlativeNumOfPacketsLost : UInt32
  extendedHighestSeqNumber : UInt32
  jitter : UInt32
  lsr : UInt32
  dlsr : UInt32

namespace ReportBlock

def unmarshal {τ : Type} : Read τ ReportBlock := do
  let ssrc ← readU32 .bigEndian
  let fractionLost ← readU8
  let cumutlativeNumOfPacketsLost ← readU24 .bigEndian
  let extendedHighestSeqNumber ← readU32 .bigEndian
  let jitter ← readU32 .bigEndian
  let lsr ← readU32 .bigEndian
  let dlsr ← readU32 .bigEndian
  pure { ssrc, fractionLost, cumutlativeNumOfPacketsLost, extendedHighestSeqNumber, jitter, lsr, dlsr }

def marshal (block : ReportBlock) : Except WriteFault (List UInt8) := do
  let writer := (BytesWriter.mk []).writeU32 .bigEndian block.ssrc
  let writer := writer.writeU8 block.fractionLost
  let writer ← writer.writeU24 .bigEndian block.cumutlativeNumOfPacketsLost
  let writer := writer.writeU32 .bigEndian block.extendedHighestSeqNumber
  let writer := writer.writeU32 .bigEndian block.jitter
  let writer := writer.writeU32 .bigEndian block.lsr
  let writer := writer.writeU32 .bigEndian block.dlsr
  return writer.bytes

/-- The bytes of a block whose loss fits. -/
def bytes (block : ReportBlock) : List UInt8 :=
  toBE 4 block.ssrc.toNat ++ (block.fractionLost :: (toBE 3 block.cumutlativeNumOfPacketsLost.toNat ++
    (toBE 4 block.extendedHighestSeqNumber.toNat ++ (toBE 4 block.jitter.toNat ++
      (toBE 4 block.lsr.toNat ++ toBE 4 block.dlsr.toNat)))))

theorem marshal_eq_ok {block : ReportBlock} {written : List UInt8} :
    block.marshal = .ok written ↔
      block.cumutlativeNumOfPacketsLost.toNat < 2 ^ 24 ∧ written = block.bytes := by
  have hBytes : ∀ writer : BytesWriter, writer.bytes = toBE 4 block.ssrc.toNat ++
      [block.fractionLost] ++ toBE 3 block.cumutlativeNumOfPacketsLost.toNat →
      ((((writer.writeU32 .bigEndian block.extendedHighestSeqNumber).writeU32 .bigEndian
        block.jitter).writeU32 .bigEndian block.lsr).writeU32 .bigEndian block.dlsr).bytes =
        block.bytes := by
    intro writer hWriter
    simp [BytesWriter.writeU32, ByteOrder.encode, bytes, hWriter]
  by_cases hFits : block.cumutlativeNumOfPacketsLost.toNat < 2 ^ 24
  · rw [marshal, BytesWriter.writeU24_ok _ _ hFits]
    refine ⟨fun h => ⟨hFits, ?_⟩, ?_⟩
    · exact (Except.ok.inj h).symm.trans (hBytes _ rfl)
    · rintro ⟨-, rfl⟩
      exact congrArg Except.ok (hBytes _ rfl)
  · refine iff_of_false ?_ fun h => hFits h.1
    rw [marshal, BytesWriter.writeU24, if_neg hFits]
    rintro ⟨⟩

/-- A block whose loss fits is read back from its bytes, and nothing else is read from them. -/
theorem codes_unmarshal {τ : Type} : Codes Anything (unmarshal : Read τ ReportBlock) bytes
    fun block => block.cumutlativeNumOfPacketsLost.toNat < 2 ^ 24 := by
  apply Codes.of_encode
  · apply codes_readU32.bind ssrc fun _ _ => trivial
    intro hSsrc _
    apply codes_readU8.bind fractionLost fun _ _ => trivial
    intro hFraction _
    apply codes_readU24.bind cumutlativeNumOfPacketsLost fun _ h => h.1.1
    intro hLost hFits
    apply codes_readU32.bind extendedHighestSeqNumber fun _ _ => trivial
    intro hHighest _
    apply codes_readU32.bind jitter fun _ _ => trivial
    intro hJitter _
    apply codes_readU32.bind lsr fun _ _ => trivial
    intro hLsr _
    apply codes_readU32.bind dlsr fun _ _ => trivial
    intro hDlsr _
    apply (codes_pure _).of_valid
    rintro ⟨ssrc, fractionLost, lost, highest, jitter, lsr, dlsr⟩
    constructor
    · rintro ⟨⟨⟨⟨⟨⟨⟨-, rfl⟩, rfl⟩, rfl⟩, rfl⟩, rfl⟩, rfl⟩, rfl⟩
      rfl
    · intro h
      cases h
      exact ⟨⟨⟨⟨⟨⟨⟨hFits, rfl⟩, rfl⟩, rfl⟩, rfl⟩, rfl⟩, rfl⟩, rfl⟩
  · intro block _
    simp [bytes]

end ReportBlock

/-! ### The context -/

/-- A 32-bit subtraction, which panics below zero. -/
def subU32 (a b : UInt32) : Option UInt32 := if b ≤ a then some (a - b) else none

def subU64 (a b : UInt64) : Option UInt64 := if b ≤ a then some (a - b) else none

/-- A product, which panics when it does not fit. -/
def mulU64 (a b : UInt64) : Option UInt64 :=
  if a.toNat * b.toNat < 2 ^ 64 then some (a * b) else none

/-- A context that receives, with the jitter of its source. -/
structure ReceiverContext extends RtcpContext where
  senderSsrc : UInt32
  srNtpLsr : UInt64
  srClockTime : UInt64
  lastRtpClock : UInt64
  lastRtpTimestamp : UInt32
  jitter : Float

structure RtcpHeader where
  version : UInt8
  paddingFlag : UInt8
  reportCount : UInt8
  payloadType : UInt8
  length : UInt16

structure RtcpReceiverReport where
  header : RtcpHeader
  ssrc : UInt32
  reportBlocks : List ReportBlock

def RTCP_RR : UInt8 := 201

namespace ReceiverContext

def new (ssrc : UInt32) (seq : UInt16) (sampleRate : UInt32) : Option ReceiverContext :=
  (RtcpContext.new ssrc seq sampleRate).map fun context =>
    { context with
      senderSsrc := 0, srNtpLsr := 0, srClockTime := 0, lastRtpClock := 0, lastRtpTimestamp := 0
      jitter := 0 }

/-- The jitter after a valid packet that comes at `rtpClock`. -/
def jitterAfter (self : ReceiverContext) (timestamp : UInt32) (rtpClock : UInt64) : Option Float :=
  if self.lastRtpClock = 0 then some 0
  else do
    let passed ← subU64 rtpClock self.lastRtpClock
    let samples ← mulU64 passed self.sampleRate.toUInt64
    let stamps ← subU32 timestamp self.lastRtpTimestamp
    let d := (samples / 1000000).toNat - (stamps.toNat : Int)
    return self.jitter + (Float.ofNat d.natAbs - self.jitter) / 16

def receivedRtp (self : ReceiverContext) (pkt : RtpPacket) (rtpClock : UInt64) :
    Option ReceiverContext := do
  let (source, valid) ← self.source.updateSequence pkt.header.seqNumber
  let self := { self with source }
  if valid = 0 then return self
  let jitter ← self.jitterAfter pkt.header.timestamp rtpClock
  return { self with jitter, lastRtpClock := rtpClock, lastRtpTimestamp := pkt.header.timestamp }

def receivedSr (self : ReceiverContext) (ssrc : UInt32) (ntp clock : UInt64) : ReceiverContext :=
  { self with srClockTime := clock, srNtpLsr := ntp, senderSsrc := ssrc }

/-- The part of the packets that was lost, in 256ths. -/
def fraction (expectedInterval : UInt32) (lostInterval : Int) : UInt32 :=
  if expectedInterval = 0 ∨ lostInterval < 0 then 0
  else UInt32.ofInt lostInterval <<< 8 / expectedInterval

/-- The report at a time, which panics where a sum or a difference does not fit. -/
def genReportBlock (self : ReceiverContext) (clock : UInt64) :
    Option (ReceiverContext × ReportBlock) := do
  let extendMax ← addU32 self.source.cycles self.source.maxSeq.toUInt32
  let ahead ← subU32 extendMax self.source.baseSeq
  let expected ← addU32 ahead 1
  let lost ← subU32 expected self.source.received
  let expectedInterval ← subU32 expected self.source.expectedPrior
  let receivedInterval ← subU32 self.source.received self.source.receivedPrior
  let lostInterval := (expectedInterval.toNat : Int) - receivedInterval.toNat
  let delay ← subU64 clock self.srClockTime
  let lsr := self.srNtpLsr >>> 8 &&& 0xFFFFFFFF
  let dlsr := (delay.toFloat / 1000000 * 65535).toUInt32
  return ({ self with source := { self.source with
                        expectedPrior := expected, receivedPrior := self.source.received } },
    { cumutlativeNumOfPacketsLost := lost
      fractionLost := (fraction expectedInterval lostInterval).toUInt8
      extendedHighestSeqNumber := extendMax
      lsr := lsr.toUInt32
      dlsr
      ssrc := self.senderSsrc
      jitter := self.jitter.toUInt32 })

def generateRr (self : ReceiverContext) (clock : UInt64) :
    Option (ReceiverContext × RtcpReceiverReport) := do
  let (self, block) ← self.genReportBlock clock
  return (self,
    { header := { payloadType := RTCP_RR, reportCount := 1, version := 2, length := (4 + 24) / 4,
                  paddingFlag := 0 }
      reportBlocks := [block]
      ssrc := self.ssrc })

end ReceiverContext

/-! ### What happens to a context -/

/-- The calls, with the time at which they are made. -/
inductive RtcpCall where
  | receivedRtp (pkt : RtpPacket) (clock : UInt64)
  | receivedSr (ssrc : UInt32) (ntp clock : UInt64)
  | generateRr (clock : UInt64)

/-- A context with what its source has received, if it has left probation, and the time that the last
sender report told. -/
structure Receiver where
  context : ReceiverContext
  since : Option Since
  ntp : UInt64

/-- The number that a packet is taken for: one ahead of the highest, or less than 100 behind it. -/
def takenFor (highest : Int) (seq maxSeq : UInt16) : Int :=
  let delta := distance seq maxSeq
  if delta < MAX_DROPOUT then highest + delta.toNat else highest + delta.toNat - 65536

/-- What has been received with one packet more: it may be the first one, of a source or after a
restart, it may be out of every window and not count, or it is one ahead or behind. -/
def sinceAfter (source source' : RtcpSource) (since : Option Since) (seq : UInt16) : Option Since :=
  let delta := distance seq source.maxSeq
  if source.probation > 0 then
    if source'.probation = 0 then some ⟨seq.toNat, seq.toNat, 1⟩ else none
  else if ¬delta < MAX_DROPOUT ∧ delta.toUInt32 ≤ RTP_SEQ_MOD - MAX_MISORDER then
    if seq = source.badSeq.toUInt16 then some ⟨seq.toNat, seq.toNat, 1⟩ else since
  else
    since.map fun since =>
      { since with
        highest := max since.highest (takenFor since.highest seq source.maxSeq)
        count := since.count + 1 }

/-- A context that is called, as long as nothing panics. -/
def receiver : System Receiver RtcpCall where
  init s := ∃ ssrc seq sampleRate context,
    ReceiverContext.new ssrc seq sampleRate = some context ∧ s = ⟨context, none, 0⟩
  step s call s' :=
    match call with
    | .receivedRtp pkt clock => ∃ context, s.context.receivedRtp pkt clock = some context ∧
        s' = { s with
          context
          since := sinceAfter s.context.source context.source s.since pkt.header.seqNumber }
    | .receivedSr ssrc ntp clock =>
        s' = { s with context := s.context.receivedSr ssrc ntp clock, ntp }
    | .generateRr clock => ∃ context report, s.context.generateRr clock = some (context, report) ∧
        s' = { s with context }

/-! ### What a report should say -/

/-- How many packets are expected, as a number without a width. -/
def RtcpSource.expected (source : RtcpSource) : Int :=
  source.cycles.toNat + source.maxSeq.toNat - source.baseSeq.toNat + 1

/-- The loss since the last report, and how many packets were expected since then. -/
def RtcpSource.expectedInterval (source : RtcpSource) : Int :=
  source.expected - source.expectedPrior.toNat

def RtcpSource.lostInterval (source : RtcpSource) : Int :=
  source.expectedInterval - (source.received.toNat - source.receivedPrior.toNat)

/-- The block of a report at a time is generated and written without overflow, what is read from its
bytes is the block, the numbers of lost packets are those without a width, and `lsr` is the middle of
the time that the last sender report told. -/
structure Sound (s : Receiver) (clock : UInt64) (block : ReportBlock) : Prop where
  generated : ∃ context, s.context.genReportBlock clock = some (context, block)
  written : ∃ bytes, block.marshal = .ok bytes ∧
    ∀ tail, ReportBlock.unmarshal (⟨(), ⟨bytes ++ tail⟩⟩ : Reading Unit) = .ok block ⟨(), ⟨tail⟩⟩
  shifted : s.context.source.lostInterval * 2 ^ 8 < 2 ^ 32
  highest : block.extendedHighestSeqNumber.toNat =
    s.context.source.cycles.toNat + s.context.source.maxSeq.toNat
  lost : block.cumutlativeNumOfPacketsLost.toNat =
    s.context.source.expected - s.context.source.received.toNat
  fraction : (block.fractionLost.toNat : Int) =
    if s.context.source.expectedInterval = 0 ∨ s.context.source.lostInterval < 0 then 0
    else 256 * s.context.source.lostInterval / s.context.source.expectedInterval
  lsr : block.lsr.toNat = s.ntp.toNat / 2 ^ 16 % 2 ^ 32

/-- How many numbers there are from the first packet to the highest one. -/
def Since.span (since : Since) : Int := since.highest - since.first + 1

/-- The bytes of a time that are above the lowest one and below the two highest ones are the same. -/
def Repeats (ntp : UInt64) : Prop :=
  ∀ i < 4, ntp.toNat / 256 ^ (i + 1) % 256 = ntp.toNat / 256 ^ (i + 2) % 256

instance (ntp : UInt64) : Decidable (Repeats ntp) :=
  inferInstanceAs (Decidable (∀ i < 4, ntp.toNat / 256 ^ (i + 1) % 256 = ntp.toNat / 256 ^ (i + 2) % 256))

/-- What a report can be generated for: a source that has left probation, of which no more packets have
come than there are numbers from the first to the highest, and not 2²⁴ less; a last sender report whose
time repeats itself in the middle; and a clock that has not gone back since. -/
def Reportable (s : Receiver) (clock : UInt64) : Prop :=
  (∃ since, s.since = some since ∧ since.count ≤ since.span ∧ since.span - since.count < 2 ^ 24 ∧
    since.span < 2 ^ 32) ∧
  Repeats s.ntp ∧ s.context.srClockTime ≤ clock

/-- A call that is not a report, or a report that can be generated. -/
def Allowed (s : Receiver) : RtcpCall → Prop
  | .generateRr clock => Reportable s clock
  | _ => True

/-! ### Checked arithmetic -/

theorem addU32_eq_some {a b c : UInt32} : addU32 a b = some c ↔ a.toNat + b.toNat = c.toNat := by
  have hC := c.toNat_lt
  constructor
  · intro h
    have hFits := addU32_isSome.mp (Option.isSome_iff_exists.mpr ⟨c, h⟩)
    rw [addU32_eq hFits] at h
    rw [← Option.some.inj h, UInt32.toNat_add, Nat.mod_eq_of_lt hFits]
  · intro h
    have hFits : a.toNat + b.toNat < 2 ^ 32 := by omega
    rw [addU32_eq hFits, Option.some.injEq, ← UInt32.toNat_inj, UInt32.toNat_add,
      Nat.mod_eq_of_lt hFits]
    exact h

theorem subU32_eq_some {a b c : UInt32} : subU32 a b = some c ↔ b.toNat + c.toNat = a.toNat := by
  unfold subU32
  split
  · rename_i hLe
    have hNat := UInt32.le_iff_toNat_le.mp hLe
    rw [Option.some.injEq, ← UInt32.toNat_inj, UInt32.toNat_sub_of_le _ _ hLe]
    omega
  · rename_i hLt
    have hNat := mt UInt32.le_iff_toNat_le.mpr hLt
    refine iff_of_false ?_ (by omega)
    rintro ⟨⟩

theorem subU64_isSome {a b : UInt64} : (∃ c, subU64 a b = some c) ↔ b ≤ a := by
  unfold subU64
  split
  · rename_i hLe
    exact iff_of_true ⟨_, rfl⟩ hLe
  · rename_i hLt
    refine iff_of_false ?_ hLt
    rintro ⟨c, ⟨⟩⟩

/-! ### What a source holds -/

/-- A source on probation has counted nothing. -/
structure Fresh (source : RtcpSource) : Prop where
  probation : source.probation > 0
  cycles : source.cycles = 0
  baseSeq : source.baseSeq = 0
  received : source.received = 0
  expectedPrior : source.expectedPrior = 0
  receivedPrior : source.receivedPrior = 0

/-- A source that has left probation counts from its first number.  At its last report nothing too much
had come, and since then nothing has changed or something has come. -/
structure Counting (source : RtcpSource) (since : Since) : Prop where
  lifted : Lifted source since
  baseSeq : (source.baseSeq.toNat : Int) = since.first
  cycle : since.first < 65536
  priors : source.receivedPrior.toNat ≤ source.expectedPrior.toNat
  expectedPrior : source.expectedPrior.toNat ≤ since.span
  received : since.span = source.expectedPrior.toNat ∧ since.count = source.receivedPrior.toNat ∨
    source.receivedPrior.toNat < since.count

theorem serial_toNat (seq : UInt16) : serial seq.toNat = seq := by
  rw [← UInt16.toNat_inj]
  exact serial_of_lt seq.toNat_lt

/-- The packet that a source starts with. -/
theorem counting_initSeq {source source' : RtcpSource} {seq : UInt16} {valid : Nat}
    (hProbation : source.probation = 0) (h : (source.initSeq seq).count = some (source', valid)) :
    Counting source' ⟨seq.toNat, seq.toNat, 1⟩ := by
  obtain ⟨rfl, -⟩ := count_eq h
  have hLt := seq.toNat_lt
  refine ⟨⟨hProbation, (serial_toNat seq).symm, Int.le_refl _, ?_, rfl⟩, ?_, ?_, Nat.le_refl _, ?_, ?_⟩
  · show (0 : Int) = 65536 * ((seq.toNat : Int) / 65536 - (seq.toNat : Int) / 65536)
    omega
  · show ((seq.toUInt32).toNat : Int) = seq.toNat
    rw [UInt16.toNat_toUInt32]
  · show (seq.toNat : Int) < 65536
    omega
  · show (0 : Int) ≤ (seq.toNat : Int) - seq.toNat + 1
    omega
  · exact .inr (by decide : 0 < 1)

theorem takenFor_serial {highest : Int} {seq maxSeq : UInt16} (h : maxSeq = serial highest) :
    serial (takenFor highest seq maxSeq) = seq := by
  have hDistance := toNat_distance seq maxSeq
  have hMax := toNat_serial highest
  have hSeq := seq.toNat_lt
  have hTaken := toNat_serial (takenFor highest seq maxSeq)
  have hMod : takenFor highest seq maxSeq % 65536 = seq.toNat := by
    unfold takenFor
    dsimp only
    split <;> rw [← h] at hMax <;> omega
  rw [← UInt16.toNat_inj]
  omega

/-- What a packet in the window leaves of the source. -/
theorem inOrder_frame {source source' : RtcpSource} {seq : UInt16} {valid : Nat}
    (h : source.inOrder seq = some (source', valid)) :
    source'.baseSeq = source.baseSeq ∧ source'.expectedPrior = source.expectedPrior ∧
      source'.receivedPrior = source.receivedPrior := by
  obtain ⟨cycles, -, hCount⟩ := Option.bind_eq_some_iff.mp h
  obtain ⟨rfl, -⟩ := count_eq hCount
  exact ⟨rfl, rfl, rfl⟩

theorem Counting.counted {source source' : RtcpSource} {since since' : Since}
    (h : Counting source since) (hLifted : Lifted source' since')
    (hFrame : source'.baseSeq = source.baseSeq ∧ source'.expectedPrior = source.expectedPrior ∧
      source'.receivedPrior = source.receivedPrior)
    (hFirst : since'.first = since.first) (hHighest : since.highest ≤ since'.highest)
    (hCount : since'.count = since.count + 1) : Counting source' since' := by
  obtain ⟨hBase, hExpected, hReceived⟩ := hFrame
  have hSpan : since.span ≤ since'.span := by
    unfold Since.span
    omega
  have hPrior : source.receivedPrior.toNat ≤ since.count := by
    rcases h.received with ⟨-, hEq⟩ | hLess
    · omega
    · omega
  refine ⟨hLifted, ?_, ?_, ?_, ?_, .inr ?_⟩
  · rw [hBase, hFirst]
    exact h.baseSeq
  · rw [hFirst]
    exact h.cycle
  · rw [hReceived, hExpected]
    exact h.priors
  · rw [hExpected]
    exact Int.le_trans h.expectedPrior hSpan
  · rw [hReceived]
    omega

/-- A source that counts, with one packet more. -/
theorem Counting.updateSequence {source source' : RtcpSource} {since : Since} {seq : UInt16}
    {valid : Nat} (h : Counting source since)
    (hRun : source.updateSequence seq = some (source', valid)) :
    ∃ since', sinceAfter source source' (some since) seq = some since' ∧
      Counting source' since' := by
  have hNot : ¬source.probation > 0 := by
    rw [h.lifted.probation]
    decide
  rw [RtcpSource.updateSequence, if_neg hNot] at hRun
  rw [sinceAfter, if_neg hNot]
  have hTaken := @takenFor_serial _ seq _ h.lifted.maxSeq
  have hDistance := toNat_distance seq source.maxSeq
  have hDropout : MAX_DROPOUT.toNat = 3000 := rfl
  by_cases hDelta : distance seq source.maxSeq < MAX_DROPOUT
  · rw [if_pos hDelta] at hRun
    rw [if_neg fun hOut => hOut.1 hDelta]
    have hNear := UInt16.lt_iff_toNat_lt.mp hDelta
    have hNumber : takenFor since.highest seq source.maxSeq =
        since.highest + (distance seq source.maxSeq).toNat := if_pos hDelta
    refine ⟨_, rfl, h.counted ?_ (inOrder_frame hRun) rfl (Int.le_max_left ..) rfl⟩
    rw [← hTaken] at hRun
    exact h.lifted.inOrder (by omega) (by omega) hRun
  · rw [if_neg hDelta] at hRun
    by_cases hFar : (distance seq source.maxSeq).toUInt32 ≤ RTP_SEQ_MOD - MAX_MISORDER
    · rw [if_pos hFar] at hRun
      rw [if_pos ⟨hDelta, hFar⟩]
      by_cases hBad : seq = source.badSeq.toUInt16
      · rw [if_pos hBad] at hRun
        rw [if_pos hBad]
        exact ⟨_, rfl, counting_initSeq h.lifted.probation hRun⟩
      · rw [if_neg hBad] at hRun
        rw [if_neg hBad]
        obtain ⟨rfl, -⟩ := Prod.mk.inj (Option.some.inj hRun)
        obtain ⟨⟨hProbation, hMax, hOrdered, hCycles, hReceived⟩, hBase, hCycle, hPriors, hExpected,
          hPrior⟩ := h
        exact ⟨since, rfl, ⟨hProbation, hMax, hOrdered, hCycles, hReceived⟩, hBase, hCycle, hPriors,
          hExpected, hPrior⟩
    · rw [if_neg hFar] at hRun
      rw [if_neg fun hOut => hFar hOut.2]
      have hNear := mt UInt32.le_iff_toNat_le.mpr hFar
      rw [UInt16.toNat_toUInt32] at hNear
      have hLimit : (RTP_SEQ_MOD - MAX_MISORDER).toNat = 65436 := rfl
      have hLess := (distance seq source.maxSeq).toNat_lt
      have hNumber : takenFor since.highest seq source.maxSeq =
          since.highest + (distance seq source.maxSeq).toNat - 65536 := if_neg hDelta
      obtain ⟨hSource, -⟩ := count_eq hRun
      refine ⟨_, rfl, h.counted ?_ ?_ rfl (Int.le_max_left ..) rfl⟩
      · exact h.lifted.count (by omega) hRun
      · rw [hSource]
        exact ⟨rfl, rfl, rfl⟩

/-- A source on probation, with one packet more. -/
theorem Fresh.updateSequence {source source' : RtcpSource} {seq : UInt16} {valid : Nat}
    (h : Fresh source) (hRun : source.updateSequence seq = some (source', valid)) :
    Fresh source' ∧ sinceAfter source source' none seq = none ∨
      ∃ since', sinceAfter source source' none seq = some since' ∧ Counting source' since' := by
  rw [RtcpSource.updateSequence, if_pos h.probation] at hRun
  rw [sinceAfter, if_pos h.probation]
  have hPositive : ∀ {probation : UInt32}, probation ≠ 0 → probation > 0 := by
    intro probation hZero
    rw [gt_iff_lt, UInt32.lt_iff_toNat_lt]
    exact Nat.pos_of_ne_zero fun hNat => hZero (UInt32.toNat_inj.mp hNat)
  obtain ⟨next, -, hRun⟩ := Option.bind_eq_some_iff.mp hRun
  split at hRun
  · dsimp only at hRun
    split at hRun
    · rename_i hZero
      have hCounting := counting_initSeq hZero hRun
      rw [if_pos hCounting.lifted.probation]
      exact .inr ⟨_, rfl, hCounting⟩
    · rename_i hZero
      obtain ⟨rfl, -⟩ := Prod.mk.inj (Option.some.inj hRun)
      exact .inl ⟨⟨hPositive hZero, h.cycles, h.baseSeq, h.received, h.expectedPrior,
        h.receivedPrior⟩, if_neg hZero⟩
  · obtain ⟨rfl, -⟩ := Prod.mk.inj (Option.some.inj hRun)
    exact .inl ⟨⟨(by decide : MIN_SEQUENTIAL - 1 > 0), h.cycles, h.baseSeq, h.received,
      h.expectedPrior, h.receivedPrior⟩, if_neg (by decide : ¬MIN_SEQUENTIAL - 1 = 0)⟩

/-! ### The numbers of a report -/

/-- What the parts of a report are, where nothing overflows. -/
structure Sums (source : RtcpSource) (extendMax expected lost expectedInterval receivedInterval : UInt32) :
    Prop where
  highest : source.cycles.toNat + source.maxSeq.toNat = extendMax.toNat
  ahead : source.baseSeq.toNat ≤ extendMax.toNat
  counted : expected.toNat + source.baseSeq.toNat = extendMax.toNat + 1
  missing : source.received.toNat + lost.toNat = expected.toNat
  sinceExpected : source.expectedPrior.toNat + expectedInterval.toNat = expected.toNat
  sinceReceived : source.receivedPrior.toNat + receivedInterval.toNat = source.received.toNat

/-- The block that the parts of a report make. -/
def ReceiverContext.blockOf (self : ReceiverContext)
    (extendMax lost expectedInterval receivedInterval : UInt32) (clock : UInt64) : ReportBlock where
  cumutlativeNumOfPacketsLost := lost
  fractionLost :=
    (fraction expectedInterval (expectedInterval.toNat - (receivedInterval.toNat : Int))).toUInt8
  extendedHighestSeqNumber := extendMax
  lsr := (self.srNtpLsr >>> 8 &&& 0xFFFFFFFF).toUInt32
  dlsr := ((clock - self.srClockTime).toFloat / 1000000 * 65535).toUInt32
  ssrc := self.senderSsrc
  jitter := self.jitter.toUInt32

/-- A report is generated exactly when its parts overflow nothing and the clock has not gone back. -/
theorem genReportBlock_eq_some {self self' : ReceiverContext} {clock : UInt64} {block : ReportBlock} :
    self.genReportBlock clock = some (self', block) ↔
      ∃ extendMax expected lost expectedInterval receivedInterval,
        Sums self.source extendMax expected lost expectedInterval receivedInterval ∧
        self.srClockTime ≤ clock ∧
        self' = { self with source := { self.source with
                              expectedPrior := expected, receivedPrior := self.source.received } } ∧
        block = self.blockOf extendMax lost expectedInterval receivedInterval clock := by
  have hSeq : self.source.maxSeq.toUInt32.toNat = self.source.maxSeq.toNat :=
    UInt16.toNat_toUInt32 _
  have hOne : (1 : UInt32).toNat = 1 := rfl
  constructor
  · intro h
    obtain ⟨extendMax, hMax, h⟩ := Option.bind_eq_some_iff.mp h
    obtain ⟨ahead, hAhead, h⟩ := Option.bind_eq_some_iff.mp h
    obtain ⟨expected, hExpected, h⟩ := Option.bind_eq_some_iff.mp h
    obtain ⟨lost, hLost, h⟩ := Option.bind_eq_some_iff.mp h
    obtain ⟨expectedInterval, hExpectedInterval, h⟩ := Option.bind_eq_some_iff.mp h
    obtain ⟨receivedInterval, hReceivedInterval, h⟩ := Option.bind_eq_some_iff.mp h
    obtain ⟨delay, hDelay, h⟩ := Option.bind_eq_some_iff.mp h
    obtain ⟨rfl, rfl⟩ := Prod.mk.inj (Option.some.inj h)
    have hClock := subU64_isSome.mp ⟨delay, hDelay⟩
    rw [subU64, if_pos hClock] at hDelay
    obtain rfl := Option.some.inj hDelay
    rw [addU32_eq_some] at hMax hExpected
    rw [subU32_eq_some] at hAhead hLost hExpectedInterval hReceivedInterval
    exact ⟨extendMax, expected, lost, expectedInterval, receivedInterval,
      ⟨by omega, by omega, by omega, by omega, by omega, by omega⟩, hClock, rfl, rfl⟩
  · rintro ⟨extendMax, expected, lost, expectedInterval, receivedInterval, hSums, hClock, rfl, rfl⟩
    have hMax : addU32 self.source.cycles self.source.maxSeq.toUInt32 = some extendMax := by
      rw [addU32_eq_some, hSeq]
      exact hSums.highest
    have hLe := UInt32.le_iff_toNat_le.mpr hSums.ahead
    have hAhead : subU32 extendMax self.source.baseSeq =
        some (extendMax - self.source.baseSeq) := if_pos hLe
    have hNat := hSums.ahead
    have hDifference := hSums.counted
    have hExpected : addU32 (extendMax - self.source.baseSeq) 1 = some expected := by
      rw [addU32_eq_some, UInt32.toNat_sub_of_le _ _ hLe]
      omega
    have hLost := subU32_eq_some.mpr hSums.missing
    have hExpectedInterval := subU32_eq_some.mpr hSums.sinceExpected
    have hReceivedInterval := subU32_eq_some.mpr hSums.sinceReceived
    have hDelay : subU64 clock self.srClockTime = some (clock - self.srClockTime) := if_pos hClock
    rw [ReceiverContext.genReportBlock, hMax]
    simp only [Option.bind_eq_bind, Option.bind_some, hAhead, hExpected, hLost, hExpectedInterval,
      hReceivedInterval, hDelay]
    rfl

/-- The fraction is the one without a width, as long as the loss can be shifted and something came. -/
theorem fraction_exact {expectedInterval : UInt32} {lostInterval : Int}
    (hShifted : lostInterval * 2 ^ 8 < 2 ^ 32)
    (hLess : expectedInterval.toNat ≠ 0 → lostInterval < expectedInterval.toNat) :
    ((ReceiverContext.fraction expectedInterval lostInterval).toUInt8.toNat : Int) =
      if (expectedInterval.toNat : Int) = 0 ∨ lostInterval < 0 then 0
      else 256 * lostInterval / expectedInterval.toNat := by
  have hZero : expectedInterval = 0 ↔ (expectedInterval.toNat : Int) = 0 := by
    rw [← UInt32.toNat_inj]
    show _ = 0 ↔ _
    omega
  rw [ReceiverContext.fraction]
  by_cases hNone : expectedInterval = 0 ∨ lostInterval < 0
  · rw [if_pos hNone, if_pos (hNone.imp_left hZero.mp)]
    rfl
  · rw [if_neg hNone, if_neg (mt (Or.imp_left hZero.mpr) hNone)]
    obtain ⟨hSome, hNonneg⟩ := not_or.mp hNone
    obtain ⟨lost, rfl⟩ := Int.eq_ofNat_of_zero_le (Int.not_lt.mp hNonneg)
    have hNat : expectedInterval.toNat ≠ 0 := by
      intro h
      exact hSome (hZero.mpr (congrArg Int.ofNat h))
    have hLost : (UInt32.ofInt (lost : Int)).toNat = lost := by
      rw [UInt32.ofInt, UInt32.toNat_ofNat']
      omega
    have hShift : (UInt32.ofInt (lost : Int) <<< 8).toNat = 256 * lost := by
      rw [UInt32.toNat_shiftLeft, hLost]
      show lost <<< 8 % 2 ^ 32 = _
      rw [Nat.shiftLeft_eq]
      omega
    have hQuotient : 256 * lost / expectedInterval.toNat < 256 := by
      rw [Nat.div_lt_iff_lt_mul (Nat.pos_of_ne_zero hNat)]
      have := hLess hNat
      omega
    rw [UInt32.toNat_toUInt8, UInt32.toNat_div, hShift, Nat.mod_eq_of_lt hQuotient]
    rfl

/-- Two numbers agree modulo a power of 256 when their bytes below it do. -/
theorem mod_pow_eq_iff (k n m : Nat) :
    n % 256 ^ k = m % 256 ^ k ↔ ∀ i < k, n / 256 ^ i % 256 = m / 256 ^ i % 256 := by
  induction k generalizing n m with
  | zero =>
    simp only [Nat.pow_zero, Nat.mod_one, Nat.not_lt_zero, false_imp_iff, implies_true]
  | succ k ih =>
    have hNext := ih (n / 256) (m / 256)
    have hSplit : n % 256 ^ (k + 1) = m % 256 ^ (k + 1) ↔
        n % 256 = m % 256 ∧ n / 256 % 256 ^ k = m / 256 % 256 ^ k := by
      rw [Nat.pow_succ', Nat.mod_mul, Nat.mod_mul]
      omega
    have hDiv : ∀ x i, x / 256 / 256 ^ i = x / 256 ^ (i + 1) := by
      intro x i
      rw [Nat.div_div_eq_div_mul, Nat.pow_succ']
    simp only [hDiv] at hNext
    rw [hSplit, hNext]
    constructor
    · rintro ⟨hFirst, hRest⟩ i hi
      cases i with
      | zero => simpa using hFirst
      | succ i => exact hRest i (Nat.lt_of_succ_lt_succ hi)
    · intro h
      refine ⟨?_, fun i hi => h (i + 1) (Nat.succ_lt_succ hi)⟩
      simpa using h 0 (Nat.succ_pos k)

/-- Bits 8 to 39 of a time are its bits 16 to 47 when these bytes repeat themselves. -/
theorem lsr_exact_iff (ntp : UInt64) :
    (ntp >>> 8 &&& 0xFFFFFFFF).toUInt32.toNat = ntp.toNat / 2 ^ 16 % 2 ^ 32 ↔ Repeats ntp := by
  have hLsr : (ntp >>> 8 &&& 0xFFFFFFFF).toUInt32.toNat = ntp.toNat / 256 % 256 ^ 4 := by
    have hMask : (0xFFFFFFFF : UInt64).toNat = 2 ^ 32 - 1 := rfl
    rw [UInt64.toNat_toUInt32, UInt64.toNat_and, UInt64.toNat_shiftRight, hMask,
      Nat.and_two_pow_sub_one_eq_mod]
    show ntp.toNat >>> 8 % 2 ^ 32 % 2 ^ 32 = _
    rw [Nat.shiftRight_eq_div_pow, Nat.mod_mod]
    rfl
  have hDiv : ∀ k i, ntp.toNat / 256 ^ k / 256 ^ i = ntp.toNat / 256 ^ (i + k) := by
    intro k i
    rw [Nat.div_div_eq_div_mul, ← Nat.pow_add, Nat.add_comm]
  have hBytes := mod_pow_eq_iff 4 (ntp.toNat / 256 ^ 1) (ntp.toNat / 256 ^ 2)
  simp only [hDiv] at hBytes
  rw [hLsr]
  exact hBytes

/-! ### Whole runs -/

theorem Counting.highest_eq {source : RtcpSource} {since : Since} (h : Counting source since) :
    (source.cycles.toNat + source.maxSeq.toNat : Int) = since.highest := by
  have hMax := toNat_serial since.highest
  have hFirst := h.baseSeq
  have hCycle := h.cycle
  rw [h.lifted.cycles, h.lifted.maxSeq, hMax]
  omega

theorem Counting.expected_eq {source : RtcpSource} {since : Since} (h : Counting source since) :
    source.expected = since.span := by
  unfold RtcpSource.expected Since.span
  rw [h.highest_eq, h.baseSeq]

theorem Fresh.expected_eq {source : RtcpSource} (h : Fresh source) :
    source.expected = source.maxSeq.toNat + 1 := by
  unfold RtcpSource.expected
  rw [h.cycles, h.baseSeq]
  show (0 : Int) + source.maxSeq.toNat - 0 + 1 = _
  omega

/-- What holds of a receiver at any time. -/
def Watched (s : Receiver) : Prop :=
  s.ntp = s.context.srNtpLsr ∧
    (Fresh s.context.source ∧ s.since = none ∨
      ∃ since, s.since = some since ∧ Counting s.context.source since)

theorem receivedRtp_source {context context' : ReceiverContext} {pkt : RtpPacket} {clock : UInt64}
    (h : context.receivedRtp pkt clock = some context') :
    context'.srNtpLsr = context.srNtpLsr ∧
      ∃ valid, context.source.updateSequence pkt.header.seqNumber = some (context'.source, valid) := by
  obtain ⟨⟨source, valid⟩, hSource, h⟩ := Option.bind_eq_some_iff.mp h
  dsimp only at h
  split at h
  · obtain rfl := Option.some.inj h
    exact ⟨rfl, valid, hSource⟩
  · obtain ⟨jitter, -, h⟩ := Option.bind_eq_some_iff.mp h
    obtain rfl := Option.some.inj h
    exact ⟨rfl, valid, hSource⟩

theorem generateRr_eq_some {context context' : ReceiverContext} {clock : UInt64}
    {report : RtcpReceiverReport} (h : context.generateRr clock = some (context', report)) :
    ∃ block, context.genReportBlock clock = some (context', block) ∧
      report.reportBlocks = [block] := by
  obtain ⟨⟨self, block⟩, hBlock, h⟩ := Option.bind_eq_some_iff.mp h
  obtain ⟨rfl, rfl⟩ := Prod.mk.inj (Option.some.inj h)
  exact ⟨block, hBlock, rfl⟩

theorem generateRr_of_block {context context' : ReceiverContext} {clock : UInt64}
    {block : ReportBlock} (h : context.genReportBlock clock = some (context', block)) :
    ∃ report, context.generateRr clock = some (context', report) ∧ report.reportBlocks = [block] := by
  rw [ReceiverContext.generateRr, h]
  exact ⟨_, rfl, rfl⟩

theorem watched_init {s : Receiver} (h : receiver.init s) : Watched s := by
  obtain ⟨ssrc, seq, sampleRate, context, hNew, rfl⟩ := h
  obtain ⟨base, hBase, rfl⟩ := Option.map_eq_some_iff.mp hNew
  obtain ⟨maxSeq, -, rfl⟩ := Option.map_eq_some_iff.mp hBase
  exact ⟨rfl, .inl ⟨⟨(by decide : MIN_SEQUENTIAL > 0), rfl, rfl, rfl, rfl, rfl⟩, rfl⟩⟩

/-- A report that can be generated leaves a loss that is not negative. -/
theorem Counting.reported {source : RtcpSource} {since : Since} {expected : UInt32}
    (h : Counting source since) (hExpected : (expected.toNat : Int) = source.expected)
    (hFew : since.count ≤ since.span) :
    Counting { source with expectedPrior := expected, receivedPrior := source.received } since := by
  have hReceived := h.lifted.received
  rw [h.expected_eq] at hExpected
  refine ⟨⟨h.lifted.probation, h.lifted.maxSeq, h.lifted.ordered, h.lifted.cycles, hReceived⟩,
    h.baseSeq, h.cycle, ?_, ?_, .inl ⟨?_, ?_⟩⟩
  · show source.received.toNat ≤ expected.toNat
    omega
  · show (expected.toNat : Int) ≤ since.span
    exact Int.le_of_eq hExpected
  · show since.span = expected.toNat
    exact hExpected.symm
  · show since.count = source.received.toNat
    exact hReceived.symm

theorem Sums.expected_eq {source : RtcpSource}
    {extendMax expected lost expectedInterval receivedInterval : UInt32}
    (h : Sums source extendMax expected lost expectedInterval receivedInterval) :
    (expected.toNat : Int) = source.expected := by
  have hHighest := h.highest
  have hCounted := h.counted
  unfold RtcpSource.expected
  omega

theorem watched_step {s s' : Receiver} {call : RtcpCall} (h : Watched s) (hAllowed : Allowed s call)
    (hStep : receiver.step s call s') : Watched s' := by
  obtain ⟨hNtp, hSource⟩ := h
  cases call with
  | receivedRtp pkt clock =>
    obtain ⟨context, hContext, rfl⟩ := hStep
    obtain ⟨hSame, valid, hRun⟩ := receivedRtp_source hContext
    refine ⟨hNtp.trans hSame.symm, ?_⟩
    rcases hSource with ⟨hFresh, hNone⟩ | ⟨since, hSince, hCounting⟩
    · rw [hNone]
      rcases hFresh.updateSequence hRun with ⟨hFresh', hNone'⟩ | ⟨since, hSince, hCounting⟩
      · exact .inl ⟨hFresh', hNone'⟩
      · exact .inr ⟨since, hSince, hCounting⟩
    · rw [hSince]
      exact .inr (hCounting.updateSequence hRun)
  | receivedSr ssrc ntp clock =>
    obtain rfl := hStep
    exact ⟨rfl, hSource⟩
  | generateRr clock =>
    obtain ⟨context, report, hReport, rfl⟩ := hStep
    obtain ⟨block, hBlock, -⟩ := generateRr_eq_some hReport
    obtain ⟨extendMax, expected, lost, expectedInterval, receivedInterval, hSums, -, rfl, -⟩ :=
      genReportBlock_eq_some.mp hBlock
    obtain ⟨⟨since, hSince, hFew, -, -⟩, -, -⟩ := hAllowed
    refine ⟨hNtp, .inr ⟨since, hSince, ?_⟩⟩
    rcases hSource with ⟨-, hNone⟩ | ⟨since', hSince', hCounting⟩
    · rw [hNone] at hSince
      cases hSince
    · obtain rfl := Option.some.inj (hSince'.symm.trans hSince)
      exact hCounting.reported hSums.expected_eq hFew

/-- The numbers of a block that is generated are those without a width, but for the fraction. -/
theorem Sums.intervals {source : RtcpSource}
    {extendMax expected lost expectedInterval receivedInterval : UInt32}
    (h : Sums source extendMax expected lost expectedInterval receivedInterval) :
    (lost.toNat : Int) = source.expected - source.received.toNat ∧
      (expectedInterval.toNat : Int) = source.expectedInterval ∧
      (expectedInterval.toNat : Int) - receivedInterval.toNat = source.lostInterval := by
  have hExpected := h.expected_eq
  have hMissing := h.missing
  have hSinceExpected := h.sinceExpected
  have hSinceReceived := h.sinceReceived
  have hInterval : source.expectedInterval = source.expected - source.expectedPrior.toNat := rfl
  have hLost : source.lostInterval =
      source.expectedInterval - (source.received.toNat - source.receivedPrior.toNat) := rfl
  refine ⟨by omega, by omega, by omega⟩

/-- On probation a report says that nothing was lost, where everything was. -/
theorem Fresh.not_sound {s : Receiver} (h : Fresh s.context.source) {clock : UInt64}
    {block : ReportBlock} : ¬Sound s clock block := by
  intro hSound
  have hFraction := hSound.fraction
  have hInterval : s.context.source.expectedInterval = s.context.source.maxSeq.toNat + 1 := by
    unfold RtcpSource.expectedInterval
    rw [h.expected_eq, h.expectedPrior]
    exact Int.sub_zero _
  have hLost : s.context.source.lostInterval = s.context.source.maxSeq.toNat + 1 := by
    unfold RtcpSource.lostInterval
    rw [hInterval, h.received, h.receivedPrior]
    exact Int.sub_zero _
  have hByte := block.fractionLost.toNat_lt
  rw [hInterval, hLost, if_neg (by omega), Int.mul_ediv_cancel _ (by omega)] at hFraction
  omega

theorem exists_toNat {n : Int} (hNonneg : 0 ≤ n) (hLess : n < 2 ^ 32) :
    ∃ u : UInt32, (u.toNat : Int) = n := by
  refine ⟨UInt32.ofNat n.toNat, ?_⟩
  rw [UInt32.toNat_ofNat']
  omega

/-- The parts of a report of a source that counts. -/
theorem Counting.sums {source : RtcpSource} {since : Since} (h : Counting source since)
    (hFew : since.count ≤ since.span) (hLess : since.span < 2 ^ 32) :
    ∃ extendMax expected lost expectedInterval receivedInterval,
      Sums source extendMax expected lost expectedInterval receivedInterval := by
  have hHighest := h.highest_eq
  have hBase := h.baseSeq
  have hOrdered := h.lifted.ordered
  have hReceived := h.lifted.received
  have hExpectedPrior := h.expectedPrior
  have hSpan : since.span = since.highest - since.first + 1 := rfl
  have hPrior : source.receivedPrior.toNat ≤ source.received.toNat := by
    rcases h.received with ⟨-, hEq⟩ | hMore
    · omega
    · omega
  have hCycles := source.cycles.toNat_lt
  have hMaxSeq := source.maxSeq.toNat_lt
  have hLifted := h.lifted.cycles
  obtain ⟨extendMax, hMax⟩ := exists_toNat (n := since.highest) (by omega) (by omega)
  obtain ⟨expected, hExpected⟩ := exists_toNat (n := since.span) (by omega) hLess
  obtain ⟨lost, hLost⟩ := exists_toNat (n := since.span - since.count) (by omega) (by omega)
  obtain ⟨expectedInterval, hExpectedInterval⟩ :=
    exists_toNat (n := since.span - source.expectedPrior.toNat) (by omega) (by omega)
  obtain ⟨receivedInterval, hReceivedInterval⟩ :=
    exists_toNat (n := source.received.toNat - (source.receivedPrior.toNat : Int)) (by omega) (by omega)
  exact ⟨extendMax, expected, lost, expectedInterval, receivedInterval, by omega, by omega, by omega,
    by omega, by omega, by omega⟩

theorem Counting.sound {s : Receiver} {since : Since} (h : Counting s.context.source since)
    (hNtp : s.ntp = s.context.srNtpLsr) (hFew : since.count ≤ since.span)
    (hLoss : since.span - since.count < 2 ^ 24) (hLess : since.span < 2 ^ 32)
    (hRepeats : Repeats s.ntp) {clock : UInt64} (hClock : s.context.srClockTime ≤ clock) :
    ∃ block, Sound s clock block := by
  obtain ⟨extendMax, expected, lost, expectedInterval, receivedInterval, hSums⟩ := h.sums hFew hLess
  obtain ⟨hLostEq, hExpectedEq, hIntervalEq⟩ := hSums.intervals
  have hExpected := h.expected_eq
  have hReceived := h.lifted.received
  have hPriors := h.priors
  have hHighest := hSums.highest
  have hFits : lost.toNat < 2 ^ 24 := by omega
  have hInterval : s.context.source.expectedInterval =
      s.context.source.expected - s.context.source.expectedPrior.toNat := rfl
  have hLostInterval : s.context.source.lostInterval = s.context.source.expectedInterval -
      (s.context.source.received.toNat - s.context.source.receivedPrior.toNat) := rfl
  have hShifted : s.context.source.lostInterval * 2 ^ 8 < 2 ^ 32 := by omega
  have hSome : expectedInterval.toNat ≠ 0 →
      (expectedInterval.toNat : Int) - receivedInterval.toNat < expectedInterval.toNat := by
    intro hSome
    rcases h.received with ⟨hNothing, -⟩ | hMore
    · omega
    · omega
  refine ⟨s.context.blockOf extendMax lost expectedInterval receivedInterval clock,
    ⟨_, genReportBlock_eq_some.mpr ⟨_, _, _, _, _, hSums, hClock, rfl, rfl⟩⟩,
    ⟨_, ReportBlock.marshal_eq_ok.mpr ⟨hFits, rfl⟩, ?_⟩, hShifted, hHighest.symm, hLostEq, ?_, ?_⟩
  · exact fun tail => ReportBlock.codes_unmarshal.decodes _ hFits () tail trivial
  · rw [← hExpectedEq, ← hIntervalEq]
    rw [← hIntervalEq] at hShifted
    exact fraction_exact hShifted hSome
  · rw [hNtp] at hRepeats ⊢
    exact (lsr_exact_iff _).mpr hRepeats

/-- In every run whose reports can all be generated, a report is sound exactly when it can be generated:
its block is made and written without overflow and says what was lost. -/
theorem report_sound_iff {s : Receiver} (h : (receiver.guard Allowed).Reached s) (clock : UInt64) :
    (∃ context report block, s.context.generateRr clock = some (context, report) ∧
      report.reportBlocks = [block] ∧ Sound s clock block) ↔ Reportable s clock := by
  have hWatched : Watched s := by
    apply h.invariant
    · exact fun s hs => watched_init hs
    · rintro s call s' hs ⟨hAllowed, hStep⟩
      exact watched_step hs hAllowed hStep
  obtain ⟨hNtp, hSource⟩ := hWatched
  constructor
  · rintro ⟨-, -, block, -, -, hSound⟩
    rcases hSource with ⟨hFresh, -⟩ | ⟨since, hSince, hCounting⟩
    · exact absurd hSound hFresh.not_sound
    · obtain ⟨context, hBlock⟩ := hSound.generated
      obtain ⟨extendMax, expected, lost, expectedInterval, receivedInterval, hSums, hClock, -, rfl⟩ :=
        genReportBlock_eq_some.mp hBlock
      obtain ⟨bytes, hBytes, -⟩ := hSound.written
      have hFits : lost.toNat < 2 ^ 24 := (ReportBlock.marshal_eq_ok.mp hBytes).1
      have hMissing := hSums.missing
      have hReceived := hCounting.lifted.received
      have hExpected := hSums.expected_eq
      have hExpectedLt := expected.toNat_lt
      rw [hCounting.expected_eq] at hExpected
      refine ⟨⟨since, hSince, by omega, by omega, by omega⟩, ?_, hClock⟩
      have hLsr := hSound.lsr
      rw [hNtp] at hLsr ⊢
      exact (lsr_exact_iff _).mp hLsr
  · rintro ⟨⟨since, hSince, hFew, hLoss, hLess⟩, hRepeats, hClock⟩
    rcases hSource with ⟨-, hNone⟩ | ⟨since', hSince', hCounting⟩
    · rw [hNone] at hSince
      cases hSince
    · obtain rfl := Option.some.inj (hSince'.symm.trans hSince)
      obtain ⟨block, hSound⟩ := hCounting.sound hNtp hFew hLoss hLess hRepeats hClock
      obtain ⟨context, hBlock⟩ := hSound.generated
      obtain ⟨report, hReport, hBlocks⟩ := generateRr_of_block hBlock
      exact ⟨context, report, block, hReport, hBlocks, hSound⟩

/-- A packet with a sequence number. -/
def packet (seq : UInt16) : RtpPacket where
  header := ⟨2, 0, 0, 0, 0, 96, seq, 0, 0, []⟩
  headerExtensionProfile := 0
  headerExtensionLength := 0
  headerExtensionPayload := []
  payload := []
  padding := []

/-- A source that has been started by the packets 1 and 2. -/
def startedReceiver : Receiver where
  context :=
    { ssrc := 0, source := ⟨2, 0, 2, 65537, 0, 1, 0, 0⟩, sampleRate := 90000, senderSsrc := 0
      srNtpLsr := 0, srClockTime := 0, lastRtpClock := 1000, lastRtpTimestamp := 0, jitter := 0 }
  since := some ⟨2, 2, 1⟩
  ntp := 0

theorem startedReceiver_reached : (receiver.guard Allowed).Reached startedReceiver :=
  ⟨_, [.receivedRtp (packet 1) 1000, .receivedRtp (packet 2) 1000], ⟨0, 1, 90000, _, rfl, rfl⟩,
    .cons ⟨trivial, _, rfl, rfl⟩ (.cons ⟨trivial, _, rfl, rfl⟩ (.nil _))⟩

theorem startedReceiver_sound :
    ∃ context report block, startedReceiver.context.generateRr 2000 = some (context, report) ∧
      report.reportBlocks = [block] ∧ Sound startedReceiver 2000 block :=
  (report_sound_iff startedReceiver_reached 2000).mpr
    ⟨⟨⟨2, 2, 1⟩, rfl, by decide, by decide, by decide⟩, by decide, by decide⟩

/-- After a packet that came twice, the report panics: more has been received than expected. -/
theorem duplicate_underflows :
    ¬∀ s, receiver.Reached s → ∀ clock, s.context.srClockTime ≤ clock →
      ∃ context report block, s.context.generateRr clock = some (context, report) ∧
        report.reportBlocks = [block] ∧ Sound s clock block := by
  intro hAll
  obtain ⟨context, hContext⟩ :
      ∃ context, startedReceiver.context.receivedRtp (packet 2) 1000 = some context := ⟨_, rfl⟩
  have hNone : (startedReceiver.context.receivedRtp (packet 2) 1000).bind (·.genReportBlock 2000) =
      none := rfl
  have hClock : (startedReceiver.context.receivedRtp (packet 2) 1000).map (·.srClockTime) = some 0 :=
    rfl
  rw [hContext] at hNone hClock
  have hStep : receiver.step startedReceiver (.receivedRtp (packet 2) 1000)
      ⟨context, some ⟨2, 2, 2⟩, 0⟩ := ⟨context, hContext, rfl⟩
  have hLe : context.srClockTime ≤ 2000 := by
    rw [show context.srClockTime = 0 from Option.some.inj hClock]
    decide
  have hReached := startedReceiver_reached.of_guard.step hStep
  obtain ⟨-, -, block, -, -, hSound⟩ := hAll _ hReached 2000 hLe
  obtain ⟨context', hBlock⟩ := hSound.generated
  cases hNone.symm.trans hBlock

end Xiu.Rtsp.Rtcp
