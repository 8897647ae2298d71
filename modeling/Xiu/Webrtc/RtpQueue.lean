import Mathlib.Algebra.Group.Nat.Defs
import Mathlib.Data.List.Chain
import Xiu.ProofKit.Serial
import Xiu.ProofKit.System

/-! The queue of `rtp_queue.rs`, which puts RTP packets into the order of their sequence numbers: its
probation, the place it gives to a packet, and the classes of packets that come after the probation. -/

namespace Xiu.Webrtc

open ProofKit

/-- A packet, with the number of which its header has the last 16 bits. -/
structure RtpPacket where
  number : Int
  payload : List UInt8
  deriving DecidableEq

def RtpPacket.sequenceNumber (packet : RtpPacket) : UInt16 := serial packet.number

def MIN_SEQUENTIAL : Nat := 2
def RTP_SEQ_MOD : UInt32 := 65536
def MAX_DROPOUT : UInt16 := 3000
def MAX_MISORDER : UInt16 := 100

structure RtpQueue where
  cycles : UInt32
  badSeq : UInt16
  probation : Nat
  firstOrderedSeq : UInt16
  maxCacheSize : Nat
  cache : List RtpPacket
  badCache : List RtpPacket
  deriving DecidableEq

namespace RtpQueue

def new (maxCacheSize : Nat) : RtpQueue := ⟨0, 0, MIN_SEQUENTIAL, 0, maxCacheSize, [], []⟩

def frontSeq (self : RtpQueue) : UInt16 :=
  match self.cache.head? with
  | some pkt => pkt.sequenceNumber
  | none => 0

def backSeq (self : RtpQueue) : UInt16 :=
  match self.cache.getLast? with
  | some pkt => pkt.sequenceNumber
  | none => 0

def clearCache (self : RtpQueue) : RtpQueue := { self with cache := [], probation := MIN_SEQUENTIAL }

def clearBadCache (self : RtpQueue) : RtpQueue := { self with badCache := [], badSeq := 0 }

/-- The packets from the back on, with one that belongs among them: it goes behind the first packet from
which its distance is positive as an `i16`, unless there is a distance of zero before. -/
def insertBack (packet : RtpPacket) : List RtpPacket → List RtpPacket
  | [] => []
  | item :: rest =>
    let distance := packet.sequenceNumber - item.sequenceNumber
    if distance = 0 then item :: rest
    else if distance < 0x8000 then packet :: item :: rest
    else item :: insertBack packet rest

def insert (self : RtpQueue) (packet : RtpPacket) : RtpQueue :=
  { self with cache := (insertBack packet self.cache.reverse).reverse }

def pushBack (self : RtpQueue) (packet : RtpPacket) : RtpQueue :=
  { self with cache := self.cache ++ [packet] }

/-- A packet that is in no window: two of them one behind the other start anew. -/
def writeBad (self : RtpQueue) (packet : RtpPacket) : RtpQueue :=
  let self :=
    if self.badCache = [] ∨ packet.sequenceNumber = self.badSeq then
      { self with
        badCache := self.badCache ++ [packet]
        badSeq := packet.sequenceNumber + 1 }
    else self.clearBadCache
  if self.badCache.length ≥ MIN_SEQUENTIAL then
    ({ self with cache := self.cache ++ self.badCache }).clearBadCache
  else self

/-- The first packet on probation, the next one, or one that starts the probation anew. -/
def writeProbation (self : RtpQueue) (packet : RtpPacket) : RtpQueue :=
  if self.cache = [] then self.pushBack packet
  else if packet.sequenceNumber = self.backSeq + 1 then
    let self := { self with probation := self.probation - 1 }
    let self :=
      if self.probation = 0 then { self with firstOrderedSeq := self.frontSeq } else self
    self.pushBack packet
  else self.clearCache.pushBack packet

/-- `write_queue`, which panics when the count of cycles overflows. -/
def writeQueue (self : RtpQueue) (packet : RtpPacket) : Option RtpQueue :=
  let curSeqNumber := packet.sequenceNumber
  if self.probation > 0 then some (self.writeProbation packet)
  else
    let delta := curSeqNumber - self.backSeq
    if delta = 0 then some self
    else if delta < MAX_DROPOUT then
      if curSeqNumber < self.backSeq then
        if self.cycles.toNat + RTP_SEQ_MOD.toNat < 2 ^ 32 then
          some ({ self with cycles := self.cycles + RTP_SEQ_MOD }.pushBack packet).clearBadCache
        else none
      else some (self.pushBack packet).clearBadCache
    else if self.backSeq - curSeqNumber < self.backSeq - self.frontSeq then
      some (self.insert packet).clearBadCache
    else if self.frontSeq - curSeqNumber < MAX_MISORDER then some self
    else some (self.writeBad packet)

def readQueue (self : RtpQueue) : Option RtpPacket × RtpQueue :=
  if self.probation > 0 then (none, self)
  else
    match self.cache with
    | [] => (none, self)
    | firstPacket :: cache =>
      if self.firstOrderedSeq = firstPacket.sequenceNumber then
        (some firstPacket, { self with firstOrderedSeq := self.firstOrderedSeq + 1, cache })
      else if self.cache.length < self.maxCacheSize then (none, self)
      else
        (some firstPacket, { self with firstOrderedSeq := firstPacket.sequenceNumber + 1, cache })

end RtpQueue

inductive QueueCall where
  | write (packet : RtpPacket)
  | read

/-! ### Probation -/

namespace RtpQueue

/-- A queue with the packets that have ended its probation. -/
def started (maxCacheSize : Nat) (first second third : RtpPacket) : RtpQueue :=
  { new maxCacheSize with
    probation := 0
    firstOrderedSeq := first.sequenceNumber
    cache := [first, second, third] }

/-- The calls of a queue that is on probation. -/
def probationCalls : System RtpQueue QueueCall where
  init self := ∃ maxCacheSize, self = new maxCacheSize
  step self call self' := 0 < self.probation ∧
    match call with
    | .write packet => self.writeQueue packet = some self'
    | .read => self.readQueue.2 = self'

/-- The queue on probation has at most two packets, one behind the other. -/
inductive Probing (maxCacheSize : Nat) : RtpQueue → Prop
  | empty : Probing maxCacheSize (new maxCacheSize)
  | first (first : RtpPacket) : Probing maxCacheSize { new maxCacheSize with cache := [first] }
  | second (first second : RtpPacket) : second.sequenceNumber = first.sequenceNumber + 1 →
      Probing maxCacheSize { new maxCacheSize with probation := 1, cache := [first, second] }
  | ended (first second third : RtpPacket) : second.sequenceNumber = first.sequenceNumber + 1 →
      third.sequenceNumber = second.sequenceNumber + 1 →
      Probing maxCacheSize (started maxCacheSize first second third)

theorem probing_writeProbation {maxCacheSize : Nat} {self : RtpQueue} (h : Probing maxCacheSize self)
    (hProbation : 0 < self.probation) (packet : RtpPacket) :
    Probing maxCacheSize (self.writeProbation packet) := by
  cases h with
  | empty => exact .first packet
  | first first =>
    by_cases hNext : packet.sequenceNumber = first.sequenceNumber + 1
    · have hWrite : writeProbation { new maxCacheSize with cache := [first] } packet =
          { new maxCacheSize with probation := 1, cache := [first, packet] } := if_pos hNext
      rw [hWrite]
      exact .second first packet hNext
    · have hWrite : writeProbation { new maxCacheSize with cache := [first] } packet =
          { new maxCacheSize with cache := [packet] } := if_neg hNext
      rw [hWrite]
      exact .first packet
  | second first second hSecond =>
    by_cases hNext : packet.sequenceNumber = second.sequenceNumber + 1
    · have hWrite : writeProbation { new maxCacheSize with probation := 1, cache := [first, second] } packet =
          started maxCacheSize first second packet := if_pos hNext
      rw [hWrite]
      exact .ended first second packet hSecond hNext
    · have hWrite : writeProbation { new maxCacheSize with probation := 1, cache := [first, second] } packet =
          { new maxCacheSize with cache := [packet] } := if_neg hNext
      rw [hWrite]
      exact .first packet
  | ended first second third => exact absurd hProbation (Nat.lt_irrefl 0)

/-- The probation ends with three packets in a row, and nothing else is left of it. -/
theorem started_of_probation {self : RtpQueue} (h : probationCalls.Reached self)
    (hOver : self.probation = 0) :
    ∃ maxCacheSize first second third, second.sequenceNumber = first.sequenceNumber + 1 ∧
      third.sequenceNumber = second.sequenceNumber + 1 ∧
      self = started maxCacheSize first second third := by
  obtain ⟨maxCacheSize, hProbing⟩ : ∃ maxCacheSize, Probing maxCacheSize self := by
    refine h.invariant (I := fun self => ∃ maxCacheSize, Probing maxCacheSize self) ?_ ?_
    · rintro self ⟨maxCacheSize, rfl⟩
      exact ⟨maxCacheSize, .empty⟩
    · rintro self call self' ⟨maxCacheSize, hProbing⟩ ⟨hProbation, hStep⟩
      refine ⟨maxCacheSize, ?_⟩
      cases call with
      | write packet =>
        have hWrite : self.writeQueue packet = some (self.writeProbation packet) := if_pos hProbation
        obtain rfl : self.writeProbation packet = self' := Option.some.inj (hWrite.symm.trans hStep)
        exact probing_writeProbation hProbing hProbation packet
      | read =>
        have hRead : self.readQueue = (none, self) := if_pos hProbation
        obtain rfl : self = self' := (congrArg Prod.snd hRead).symm.trans hStep
        exact hProbing
  cases hProbing with
  | empty => cases hOver
  | first first => cases hOver
  | second first second => cases hOver
  | ended first second third hSecond hThird => exact ⟨_, first, second, third, hSecond, hThird, rfl⟩

end RtpQueue

/-! ### Packets in a row -/

/-- A packet is ahead of another one, by less than 3000. -/
def Follows (p q : RtpPacket) : Prop := p.number < q.number ∧ q.number < p.number + 3000

theorem number_lt_of_chain {front : RtpPacket} {rest : List RtpPacket}
    (h : (front :: rest).IsChain Follows) : ∀ p ∈ rest, front.number < p.number := by
  induction rest generalizing front with
  | nil => simp
  | cons next rest ih =>
    obtain ⟨hFirst, hRest⟩ := List.isChain_cons_cons.mp h
    intro p hp
    rcases List.mem_cons.mp hp with rfl | hp
    · exact hFirst.1
    · exact Int.lt_trans hFirst.1 (ih hRest p hp)

theorem toNat_distance (p q : RtpPacket) :
    ((p.sequenceNumber - q.sequenceNumber).toNat : Int) = (p.number - q.number) % 65536 :=
  toNat_serial_sub p.number q.number

section InsertBack

variable {packet q : RtpPacket} {rest : List RtpPacket}

/-- The packets that are less than 100 ahead are passed by. -/
theorem insertBack_ahead (hAhead : packet.number < q.number) (hNear : q.number < packet.number + 100) :
    RtpQueue.insertBack packet (q :: rest) = q :: RtpQueue.insertBack packet rest := by
  have hDistance := toNat_distance packet q
  have hZero : packet.sequenceNumber - q.sequenceNumber ≠ 0 := by
    intro hZero
    rw [hZero] at hDistance
    have hNat : (0 : UInt16).toNat = 0 := rfl
    omega
  have hLarge : ¬packet.sequenceNumber - q.sequenceNumber < 0x8000 := by
    intro hLess
    rw [UInt16.lt_iff_toNat_lt] at hLess
    have hNat : (0x8000 : UInt16).toNat = 32768 := rfl
    omega
  rw [RtpQueue.insertBack]
  simp only [hZero, hLarge, if_false]

/-- What insertion makes of the packets before one that is ahead: the packet is among them, in its
place. -/
structure Inserted (packet q : RtpPacket) (rest rest' : List RtpPacket) : Prop where
  chain : (q :: rest').IsChain fun p p' => Follows p' p
  present : ∃ p ∈ rest', p.number = packet.number
  keeps : ∀ p ∈ rest, p ∈ rest'
  only : ∀ p ∈ rest', p ∈ rest ∨ p = packet

theorem inserted_insertBack (hChain : (q :: rest).IsChain fun p p' => Follows p' p)
    (hAhead : packet.number < q.number) (hNear : q.number < packet.number + 100)
    (hBehind : ∃ p ∈ rest, p.number ≤ packet.number) :
    Inserted packet q rest (RtpQueue.insertBack packet rest) := by
  induction rest generalizing q with
  | nil => simp at hBehind
  | cons c rest ih =>
    obtain ⟨hFirst, hRest⟩ := List.isChain_cons_cons.mp hChain
    obtain ⟨hLess, hGap⟩ := hFirst
    rcases Int.lt_trichotomy c.number packet.number with hC | hC | hC
    · have hDistance := toNat_distance packet c
      have hZero : packet.sequenceNumber - c.sequenceNumber ≠ 0 := by
        intro hZero
        rw [hZero] at hDistance
        have hNat : (0 : UInt16).toNat = 0 := rfl
        omega
      have hSmall : packet.sequenceNumber - c.sequenceNumber < 0x8000 := by
        rw [UInt16.lt_iff_toNat_lt]
        have hNat : (0x8000 : UInt16).toNat = 32768 := rfl
        omega
      have hPlaced : RtpQueue.insertBack packet (c :: rest) = packet :: c :: rest := by
        rw [RtpQueue.insertBack]
        simp only [hZero, hSmall, if_false, if_true]
      rw [hPlaced]
      refine ⟨?_, ⟨packet, List.mem_cons_self, rfl⟩, fun p hp => List.mem_cons_of_mem _ hp, ?_⟩
      · exact .cons_cons ⟨hAhead, by omega⟩ (.cons_cons ⟨hC, by omega⟩ hRest)
      · intro p hp
        exact (List.mem_cons.mp hp).symm
    · have hZero : packet.sequenceNumber - c.sequenceNumber = 0 := by
        rw [RtpPacket.sequenceNumber, RtpPacket.sequenceNumber, hC, UInt16.sub_self]
      have hSame : RtpQueue.insertBack packet (c :: rest) = c :: rest := by
        rw [RtpQueue.insertBack]
        simp only [hZero, if_true]
      rw [hSame]
      exact ⟨hChain, ⟨c, List.mem_cons_self, hC⟩, fun p hp => hp, fun p hp => .inl hp⟩
    · have hNear' : c.number < packet.number + 100 := by omega
      rw [insertBack_ahead hC hNear']
      have hBehind' : ∃ p ∈ rest, p.number ≤ packet.number := by
        obtain ⟨p, hp, hLe⟩ := hBehind
        rcases List.mem_cons.mp hp with rfl | hp
        · omega
        · exact ⟨p, hp, hLe⟩
      have hInserted := ih hRest hC hNear' hBehind'
      obtain ⟨p, hp, hNumber⟩ := hInserted.present
      refine ⟨.cons_cons ⟨hLess, hGap⟩ hInserted.chain, ⟨p, List.mem_cons_of_mem _ hp, hNumber⟩,
        ?_, ?_⟩
      · intro p hp
        rcases List.mem_cons.mp hp with rfl | hp
        · exact List.mem_cons_self
        · exact List.mem_cons_of_mem _ (hInserted.keeps p hp)
      · intro p hp
        rcases List.mem_cons.mp hp with rfl | hp
        · exact .inl List.mem_cons_self
        · rcases hInserted.only p hp with hp | rfl
          · exact .inl (List.mem_cons_of_mem _ hp)
          · exact .inr rfl

end InsertBack

/-! ### How a packet is classified -/

section Classes

variable {self : RtpQueue} {packet : RtpPacket} {a b : Int}

/-- The classes of a packet, by its number and those of the front and the back. -/
theorem writeQueue_eq (hProbation : self.probation = 0) (hFront : self.frontSeq = serial a)
    (hBack : self.backSeq = serial b) :
    self.writeQueue packet =
      if (packet.number - b) % 65536 = 0 then some self
      else if (packet.number - b) % 65536 < 3000 then
        if packet.number % 65536 < b % 65536 then
          if self.cycles.toNat + 65536 < 2 ^ 32 then
            some ({ self with cycles := self.cycles + RTP_SEQ_MOD }.pushBack packet).clearBadCache
          else none
        else some (self.pushBack packet).clearBadCache
      else if (b - packet.number) % 65536 < (b - a) % 65536 then
        some (self.insert packet).clearBadCache
      else if (a - packet.number) % 65536 < 100 then some self
      else some (self.writeBad packet) := by
  have hDelta := toNat_serial_sub packet.number b
  have hBehind := toNat_serial_sub b packet.number
  have hSpan := toNat_serial_sub b a
  have hLate := toNat_serial_sub a packet.number
  have hZero : serial packet.number - serial b = 0 ↔ (packet.number - b) % 65536 = 0 := by
    rw [← UInt16.toNat_inj]
    have hNat : (0 : UInt16).toNat = 0 := rfl
    omega
  have hAhead : serial packet.number - serial b < MAX_DROPOUT ↔ (packet.number - b) % 65536 < 3000 := by
    rw [UInt16.lt_iff_toNat_lt]
    have hNat : MAX_DROPOUT.toNat = 3000 := rfl
    omega
  have hReordered : serial b - serial packet.number < serial b - serial a ↔
      (b - packet.number) % 65536 < (b - a) % 65536 := by
    rw [UInt16.lt_iff_toNat_lt]
    omega
  have hTooLate : serial a - serial packet.number < MAX_MISORDER ↔ (a - packet.number) % 65536 < 100 := by
    rw [UInt16.lt_iff_toNat_lt]
    have hNat : MAX_MISORDER.toNat = 100 := rfl
    omega
  have hMod : RTP_SEQ_MOD.toNat = 65536 := rfl
  rw [RtpQueue.writeQueue]
  simp only [RtpPacket.sequenceNumber, hProbation, hFront, hBack, gt_iff_lt, lt_self_iff_false, if_false,
    hZero, hAhead, hReordered, hTooLate, hMod, serial_lt_iff]

end Classes

end Xiu.Webrtc
