import Xiu.Webrtc.RtpQueue

/-! What the queue of `rtp_queue.rs` returns over any writes and reads: the packets in order, and every one
that comes before a later one has been returned, as long as each is taken for what it is. -/

namespace Xiu.Webrtc

open ProofKit

/-- A queue, the packets that it has returned, the newest number that has come since the end of the
probation, and the numbers of the packets that are to be returned. -/
structure Delivery where
  queue : RtpQueue
  returned : List RtpPacket
  newest : Int
  owed : List Int
  deriving DecidableEq

namespace Delivery

/-- A packet that comes while no later one has been returned and there is room is to be returned. -/
def Owes (s : Delivery) (packet : RtpPacket) : Prop :=
  (∀ p ∈ s.returned, p.number < packet.number) ∧ s.queue.cache.length < s.queue.maxCacheSize

instance (s : Delivery) (packet : RtpPacket) : Decidable (s.Owes packet) :=
  inferInstanceAs (Decidable (_ ∧ _))

/-- A packet is in the windows when it is less than 3000 ahead of the newest one, or less than 100
behind. -/
def InWindow (s : Delivery) (packet : RtpPacket) : Prop :=
  packet.number < s.newest + 3000 ∧ s.newest < packet.number + 100

/-- A packet with this number has been returned, or waits in the queue. -/
def Holds (s : Delivery) (n : Int) : Prop :=
  (∃ p ∈ s.returned, p.number = n) ∨ ∃ p ∈ s.queue.cache, p.number = n

/-- A queue whose probation is over, with the three packets that have ended it. -/
def started (maxCacheSize : Nat) (first second third : RtpPacket) : Delivery where
  queue := RtpQueue.started maxCacheSize first second third
  returned := []
  newest := third.number
  owed := []

instance (s : Delivery) (packet : RtpPacket) : Decidable (s.InWindow packet) :=
  inferInstanceAs (Decidable (_ ∧ _))

def afterWrite (s : Delivery) (packet : RtpPacket) (queue : RtpQueue) : Delivery where
  queue
  returned := s.returned
  newest := max s.newest packet.number
  owed := if s.Owes packet then packet.number :: s.owed else s.owed

def afterRead (s : Delivery) : Delivery where
  queue := s.queue.readQueue.2
  returned := s.returned ++ s.queue.readQueue.1.toList
  newest := s.newest
  owed := s.owed

/-- The state after a read, or after a packet in the windows that does not make the queue panic. -/
def next (s : Delivery) : QueueCall → Option Delivery
  | .write packet =>
    if s.InWindow packet then (s.queue.writeQueue packet).map (s.afterWrite packet) else none
  | .read => some s.afterRead

def system : System Delivery QueueCall where
  init s := ∃ maxCacheSize first second third, second.number = first.number + 1 ∧
    third.number = first.number + 2 ∧ s = started maxCacheSize first second third
  step s call s' := s.next call = some s'

/-- A packet is taken for what it is.  Where the queue has been drained, its number is compared with 0: a
new one must be at most 2999 behind a multiple of 2¹⁶, and a late one at most 99 before.  Elsewhere one
that belongs into the queue must be nearer to the back than the front is, modulo 2¹⁶, and one before the
front must not be waited for. -/
def WellClassified (s : Delivery) (packet : RtpPacket) : Prop :=
  match s.queue.cache.head? with
  | none =>
    if s.newest < packet.number then
      0 < packet.number % 65536 ∧ packet.number % 65536 < 3000
    else packet.number % 65536 = 0 ∨ 65436 < packet.number % 65536
  | some front =>
    (front.number < packet.number → packet.number < s.newest →
      s.newest - packet.number < (s.newest - front.number) % 65536) ∧
    (packet.number < front.number → ¬s.Owes packet)

/-- The count of cycles has room, when a packet begins one. -/
def HasRoom (s : Delivery) (packet : RtpPacket) : Prop :=
  s.queue.cache ≠ [] → s.newest < packet.number → packet.number % 65536 < s.newest % 65536 →
    s.queue.cycles.toNat + 65536 < 2 ^ 32

/-- A packet that is taken for what it is, or a read. -/
def Allowed (s : Delivery) : QueueCall → Prop
  | .write packet => s.WellClassified packet ∧ s.HasRoom packet
  | .read => True

/-- The packets are in order, those that have been returned before those that wait, and none has been
lost. -/
structure Orderly (s : Delivery) : Prop where
  probation : s.queue.probation = 0
  badCache : s.queue.badCache = []
  chain : s.queue.cache.IsChain Follows
  returned : s.returned.Pairwise fun p q => p.number < q.number
  behind : ∀ p ∈ s.returned, ∀ q ∈ s.queue.cache, p.number < q.number
  back : ∀ p ∈ s.queue.cache.getLast?, p.number = s.newest
  drained : s.queue.cache = [] → ∃ p ∈ s.returned, p.number = s.newest
  atMost : ∀ p ∈ s.returned, p.number ≤ s.newest
  owed : ∀ n ∈ s.owed, s.Holds n

/-- What a write leaves in the queue: what was there, and the packet where it is owed. -/
structure Written (s : Delivery) (packet : RtpPacket) (queue : RtpQueue) : Prop where
  probation : queue.probation = 0
  badCache : queue.badCache = []
  chain : queue.cache.IsChain Follows
  keeps : ∀ p ∈ s.queue.cache, p ∈ queue.cache
  only : ∀ p ∈ queue.cache, p ∈ s.queue.cache ∨
    p = packet ∧ ∀ r ∈ s.returned, r.number < packet.number
  back : ∀ p ∈ queue.cache.getLast?, p.number = max s.newest packet.number
  drained : queue.cache = [] → packet.number ≤ s.newest
  owed : s.Owes packet → ∃ p ∈ queue.cache, p.number = packet.number

variable {s : Delivery} {packet : RtpPacket}

theorem orderly_written (h : Orderly s) {queue : RtpQueue} (hWritten : Written s packet queue) :
    Orderly (s.afterWrite packet queue) where
  probation := hWritten.probation
  badCache := hWritten.badCache
  chain := hWritten.chain
  returned := h.returned
  behind p hp q hq := by
    rcases hWritten.only q hq with hq | ⟨rfl, hBehind⟩
    · exact h.behind p hp q hq
    · exact hBehind p hp
  back := hWritten.back
  drained hEmpty := by
    have hAfter : queue.cache = [] := hEmpty
    have hBefore : s.queue.cache = [] := by
      apply List.eq_nil_iff_forall_not_mem.mpr
      intro p hp
      have hMem := hWritten.keeps p hp
      rw [hAfter] at hMem
      cases hMem
    obtain ⟨p, hp, hNewest⟩ := h.drained hBefore
    exact ⟨p, hp, hNewest.trans (Int.max_eq_left (hWritten.drained hEmpty)).symm⟩
  atMost p hp := Int.le_trans (h.atMost p hp) (Int.le_max_left ..)
  owed n hn := by
    have hKept : ∀ n, s.Holds n →
        (∃ p ∈ s.returned, p.number = n) ∨ ∃ p ∈ queue.cache, p.number = n := by
      rintro n (hReturned | ⟨p, hp, hNumber⟩)
      · exact .inl hReturned
      · exact .inr ⟨p, hWritten.keeps p hp, hNumber⟩
    rw [afterWrite] at hn
    by_cases hOwes : s.Owes packet
    · rw [if_pos hOwes] at hn
      rcases List.mem_cons.mp hn with rfl | hn
      · exact .inr (hWritten.owed hOwes)
      · exact hKept n (h.owed n hn)
    · rw [if_neg hOwes] at hn
      exact hKept n (h.owed n hn)

/-- A packet that changes nothing: it is not owed, or there already. -/
theorem written_same (h : Orderly s) (hLate : packet.number ≤ s.newest)
    (hOwed : s.Owes packet → ∃ p ∈ s.queue.cache, p.number = packet.number) :
    Written s packet s.queue where
  probation := h.probation
  badCache := h.badCache
  chain := h.chain
  keeps _ hp := hp
  only _ hp := .inl hp
  back p hp := (h.back p hp).trans (Int.max_eq_left hLate).symm
  drained _ := hLate
  owed := hOwed

/-- A packet that is ahead of all others. -/
theorem written_pushed (h : Orderly s) (hAhead : s.newest < packet.number)
    (hWindow : packet.number < s.newest + 3000) (cycles : UInt32) :
    Written s packet ({ s.queue with cycles }.pushBack packet).clearBadCache where
  probation := h.probation
  badCache := rfl
  chain := by
    refine List.isChain_append.mpr ⟨h.chain, .singleton packet, ?_⟩
    intro p hp q hq
    obtain rfl : packet = q := Option.some.inj hq
    have hBack := h.back p hp
    exact ⟨by omega, by omega⟩
  keeps p hp := List.mem_append_left _ hp
  only p hp := by
    rcases List.mem_append.mp hp with hp | hp
    · exact .inl hp
    · refine .inr ⟨List.mem_singleton.mp hp, ?_⟩
      intro r hr
      have hAtMost := h.atMost r hr
      omega
  back p hp := by
    have hLast : (s.queue.cache ++ [packet]).getLast? = some packet := List.getLast?_concat
    obtain rfl : packet = p := Option.some.inj (hLast.symm.trans hp)
    exact (Int.max_eq_right (Int.le_of_lt hAhead)).symm
  drained hEmpty := absurd hEmpty (by simp [RtpQueue.pushBack, RtpQueue.clearBadCache])
  owed _ := ⟨packet, List.mem_append_right _ (List.mem_singleton.mpr rfl), rfl⟩

/-- A packet that belongs between the front and the back. -/
theorem written_inserted (h : Orderly s) {front : RtpPacket} (hFront : s.queue.cache.head? = some front)
    (hAhead : front.number < packet.number) (hBehind : packet.number < s.newest)
    (hWindow : s.newest < packet.number + 100) :
    Written s packet (s.queue.insert packet).clearBadCache := by
  obtain ⟨rest, hCache⟩ : ∃ rest, s.queue.cache = front :: rest := by
    cases hCache : s.queue.cache with
    | nil =>
      rw [hCache] at hFront
      cases hFront
    | cons front' rest =>
      rw [hCache] at hFront
      cases hFront
      exact ⟨rest, rfl⟩
  obtain ⟨back, before, hReverse⟩ : ∃ back before, s.queue.cache.reverse = back :: before := by
    cases hReverse : s.queue.cache.reverse with
    | nil => simp [hCache] at hReverse
    | cons back before => exact ⟨back, before, rfl⟩
  have hMem : ∀ p, p ∈ back :: before ↔ p ∈ s.queue.cache := fun p => by
    rw [← hReverse, List.mem_reverse]
  have hBackNumber : back.number = s.newest := by
    apply h.back
    rw [← List.head?_reverse, hReverse]
    rfl
  have hChain : (back :: before).IsChain fun p p' => Follows p' p := by
    rw [← hReverse, List.isChain_reverse]
    exact h.chain
  have hFrontBefore : front ∈ before := by
    rcases List.mem_cons.mp ((hMem front).mpr (by rw [hCache]; exact List.mem_cons_self)) with hEq | hMem
    · rw [hEq] at hAhead
      omega
    · exact hMem
  have hInserted := inserted_insertBack hChain (by omega : packet.number < back.number) (by omega)
    ⟨front, hFrontBefore, Int.le_of_lt hAhead⟩
  have hInsertBack : RtpQueue.insertBack packet s.queue.cache.reverse =
      back :: RtpQueue.insertBack packet before := by
    rw [hReverse]
    exact insertBack_ahead (by omega) (by omega)
  have hNew : (s.queue.insert packet).clearBadCache.cache =
      (back :: RtpQueue.insertBack packet before).reverse := congrArg List.reverse hInsertBack
  have hMemNew : ∀ p, p ∈ (s.queue.insert packet).clearBadCache.cache ↔
      p ∈ back :: RtpQueue.insertBack packet before := fun p => by
    rw [hNew, List.mem_reverse]
  refine ⟨h.probation, rfl, ?_, ?_, ?_, ?_, ?_, ?_⟩
  · rw [hNew, List.isChain_reverse]
    exact hInserted.chain
  · intro p hp
    rw [hMemNew]
    rcases List.mem_cons.mp ((hMem p).mpr hp) with rfl | hp
    · exact List.mem_cons_self
    · exact List.mem_cons_of_mem _ (hInserted.keeps p hp)
  · intro p hp
    rcases List.mem_cons.mp ((hMemNew p).mp hp) with rfl | hp
    · exact .inl ((hMem p).mp List.mem_cons_self)
    · rcases hInserted.only p hp with hp | rfl
      · exact .inl ((hMem p).mp (List.mem_cons_of_mem _ hp))
      · refine .inr ⟨rfl, ?_⟩
        intro r hr
        have hLess := h.behind r hr front (by rw [hCache]; exact List.mem_cons_self)
        omega
  · intro p hp
    rw [hNew, List.getLast?_reverse] at hp
    cases hp
    rw [hBackNumber]
    exact (Int.max_eq_left (Int.le_of_lt hBehind)).symm
  · intro hEmpty
    rw [hNew] at hEmpty
    simp at hEmpty
  · intro _
    obtain ⟨p, hp, hNumber⟩ := hInserted.present
    exact ⟨p, (hMemNew p).mpr (List.mem_cons_of_mem _ hp), hNumber⟩

/-- The back is the newest packet, and the front comes no later. -/
theorem front_le_newest (h : Orderly s) {front : RtpPacket} {rest : List RtpPacket}
    (hCache : s.queue.cache = front :: rest) :
    front.number ≤ s.newest ∧ s.queue.frontSeq = serial front.number ∧
      s.queue.backSeq = serial s.newest := by
  obtain ⟨back, hLast⟩ : ∃ back, s.queue.cache.getLast? = some back := by
    rw [hCache]
    exact ⟨_, List.getLast?_cons⟩
  have hNewest := h.back back hLast
  have hMem : back ∈ front :: rest := by
    rw [← hCache]
    exact List.mem_of_getLast? hLast
  have hChain := h.chain
  rw [hCache] at hChain
  refine ⟨?_, ?_, ?_⟩
  · rcases List.mem_cons.mp hMem with rfl | hMem
    · omega
    · have hLess := number_lt_of_chain hChain back hMem
      omega
  · rw [RtpQueue.frontSeq, hCache]
    rfl
  · rw [RtpQueue.backSeq, hLast, ← hNewest]
    rfl

/-- Nothing that has come is still to be returned when the queue has been drained. -/
theorem newest_lt_of_owes (h : Orderly s) (hEmpty : s.queue.cache = []) (hOwes : s.Owes packet) :
    s.newest < packet.number := by
  obtain ⟨p, hp, hNewest⟩ := h.drained hEmpty
  have hLess := hOwes.1 p hp
  omega

theorem ends_of_drained (hEmpty : s.queue.cache = []) :
    s.queue.frontSeq = serial 0 ∧ s.queue.backSeq = serial 0 := by
  rw [RtpQueue.frontSeq, RtpQueue.backSeq, hEmpty]
  exact ⟨rfl, rfl⟩

/-- A packet that comes when the queue has been drained. -/
theorem written_drained (h : Orderly s) (hEmpty : s.queue.cache = []) (hIn : s.InWindow packet)
    (hClass : s.WellClassified packet) :
    ∃ queue, s.queue.writeQueue packet = some queue ∧ Written s packet queue := by
  obtain ⟨hFront, hBack⟩ := ends_of_drained hEmpty
  rw [writeQueue_eq h.probation hFront hBack]
  rw [WellClassified, hEmpty] at hClass
  by_cases hNew : s.newest < packet.number
  · simp only [List.head?_nil, hNew, if_true] at hClass
    rw [if_neg (by omega), if_pos (by omega), if_neg (by omega)]
    exact ⟨_, rfl, written_pushed h hNew hIn.1 s.queue.cycles⟩
  · simp only [List.head?_nil, hNew, if_false] at hClass
    have hSame : Written s packet s.queue :=
      written_same h (by omega) fun hOwes => absurd (newest_lt_of_owes h hEmpty hOwes) hNew
    by_cases hZero : (packet.number - 0) % 65536 = 0
    · rw [if_pos hZero]
      exact ⟨_, rfl, hSame⟩
    · rw [if_neg hZero, if_neg (by omega), if_neg (by omega), if_pos (by omega)]
      exact ⟨_, rfl, hSame⟩

/-- A packet that comes when others wait. -/
theorem written_queued (h : Orderly s) {front : RtpPacket} {rest : List RtpPacket}
    (hCache : s.queue.cache = front :: rest) (hIn : s.InWindow packet)
    (hClass : s.WellClassified packet) (hRoom : s.HasRoom packet) :
    ∃ queue, s.queue.writeQueue packet = some queue ∧ Written s packet queue := by
  obtain ⟨hLe, hFront, hBack⟩ := front_le_newest h hCache
  obtain ⟨hAhead, hBehind⟩ := hIn
  rw [writeQueue_eq h.probation hFront hBack]
  rw [WellClassified, hCache] at hClass
  obtain ⟨hBetween, hBefore⟩ := hClass
  rcases Int.lt_trichotomy packet.number s.newest with hLate | hSame | hNew
  · rw [if_neg (by omega), if_neg (by omega)]
    rcases Int.lt_trichotomy front.number packet.number with hInside | hSame | hOutside
    · have hNear := hBetween hInside hLate
      rw [if_pos (by omega)]
      exact ⟨_, rfl, written_inserted h (by rw [hCache]; rfl) hInside hLate hBehind⟩
    · rw [if_neg (by omega), if_pos (by omega)]
      refine ⟨_, rfl, written_same h (Int.le_of_lt hLate) fun _ => ⟨front, ?_, hSame⟩⟩
      rw [hCache]
      exact List.mem_cons_self
    · rw [if_neg (by omega), if_pos (by omega)]
      exact ⟨_, rfl, written_same h (Int.le_of_lt hLate) fun hOwes => absurd hOwes (hBefore hOutside)⟩
  · rw [if_pos (by omega)]
    refine ⟨_, rfl, written_same h (Int.le_of_eq hSame) fun _ => ?_⟩
    obtain ⟨back, hLast⟩ : ∃ back, s.queue.cache.getLast? = some back := by
      rw [hCache]
      exact ⟨_, List.getLast?_cons⟩
    exact ⟨back, List.mem_of_getLast? hLast, (h.back back hLast).trans hSame.symm⟩
  · rw [if_neg (by omega), if_pos (by omega)]
    by_cases hWraps : packet.number % 65536 < s.newest % 65536
    · have hCycles := hRoom (by simp [hCache]) hNew hWraps
      rw [if_pos hWraps, if_pos hCycles]
      exact ⟨_, rfl, written_pushed h hNew hAhead _⟩
    · rw [if_neg hWraps]
      exact ⟨_, rfl, written_pushed h hNew hAhead s.queue.cycles⟩

theorem written_allowed (h : Orderly s) (hIn : s.InWindow packet) (hAllowed : s.Allowed (.write packet)) :
    ∃ queue, s.queue.writeQueue packet = some queue ∧ Written s packet queue := by
  cases hCache : s.queue.cache with
  | nil => exact written_drained h hCache hIn hAllowed.1
  | cons front rest => exact written_queued h hCache hIn hAllowed.1 hAllowed.2

/-! ### What is lost -/

theorem cache_writeBad {self : RtpQueue} (h : self.badCache = []) :
    (self.writeBad packet).cache = self.cache := by
  have hLength : ¬([packet].length ≥ MIN_SEQUENTIAL) := by
    rw [List.length_singleton]
    decide
  rw [RtpQueue.writeBad, if_pos (Or.inl h)]
  simp only [h, List.nil_append, hLength, if_false]

/-- A packet that is to be returned and is not taken for what it is leaves the cache as it is. -/
theorem cache_misclassified (h : Orderly s) (hIn : s.InWindow packet) (hOwes : s.Owes packet)
    (hClass : ¬s.WellClassified packet) {queue : RtpQueue}
    (hWrite : s.queue.writeQueue packet = some queue) : queue.cache = s.queue.cache := by
  obtain ⟨hAhead, hBehind⟩ := hIn
  have hTail : ∀ c : Prop, ∀ _ : Decidable c,
      (if c then some s.queue else some (s.queue.writeBad packet)) = some queue →
        queue.cache = s.queue.cache := by
    intro c _ hTail
    split at hTail
    · cases hTail
      rfl
    · cases hTail
      exact cache_writeBad h.badCache
  cases hCache : s.queue.cache with
  | nil =>
    obtain ⟨hFront, hBack⟩ := ends_of_drained hCache
    have hNewest := newest_lt_of_owes h hCache hOwes
    rw [writeQueue_eq h.probation hFront hBack] at hWrite
    rw [WellClassified, hCache] at hClass
    simp only [List.head?_nil, hNewest, if_true] at hClass
    rw [← hCache]
    by_cases hZero : (packet.number - 0) % 65536 = 0
    · rw [if_pos hZero] at hWrite
      cases hWrite
      rfl
    · rw [if_neg hZero, if_neg (by omega), if_neg (by omega)] at hWrite
      exact hTail _ _ hWrite
  | cons front rest =>
    obtain ⟨hLe, hFront, hBack⟩ := front_le_newest h hCache
    rw [writeQueue_eq h.probation hFront hBack] at hWrite
    rw [WellClassified, hCache] at hClass
    have hClass := not_and_or.mp hClass
    rw [← hCache]
    rcases hClass with hBetween | hBefore
    · have hInside : front.number < packet.number := by
        by_contra hNot
        exact hBetween fun hInside => absurd hInside hNot
      have hLate : packet.number < s.newest := by
        by_contra hNot
        exact hBetween fun _ hLate => absurd hLate hNot
      have hFar : ¬s.newest - packet.number < (s.newest - front.number) % 65536 :=
        fun hNear => hBetween fun _ _ => hNear
      rw [if_neg (by omega), if_neg (by omega), if_neg (by omega)] at hWrite
      exact hTail _ _ hWrite
    · have hOutside : packet.number < front.number := by
        by_contra hNot
        exact hBefore fun hOutside => absurd hOutside hNot
      rw [if_neg (by omega), if_neg (by omega), if_neg (by omega)] at hWrite
      exact hTail _ _ hWrite

/-! ### Reading -/

/-- A read leaves the queue as it is, which is then empty or not full, or takes the front. -/
theorem readQueue_cases {self : RtpQueue} (h : self.probation = 0) :
    (self.readQueue = (none, self) ∧ (self.cache = [] ∨ self.cache.length < self.maxCacheSize)) ∨
    ∃ front rest, self.cache = front :: rest ∧ self.readQueue =
      (some front, { self with firstOrderedSeq := front.sequenceNumber + 1, cache := rest }) := by
  have hProbation : ¬self.probation > 0 := by omega
  cases hCache : self.cache with
  | nil =>
    refine .inl ⟨?_, .inl rfl⟩
    rw [RtpQueue.readQueue, if_neg hProbation, hCache]
  | cons front rest =>
    rw [RtpQueue.readQueue, if_neg hProbation, hCache]
    by_cases hNext : self.firstOrderedSeq = front.sequenceNumber
    · refine .inr ⟨front, rest, rfl, ?_⟩
      simp only [hNext, if_true]
    · by_cases hRoom : (front :: rest).length < self.maxCacheSize
      · refine .inl ⟨?_, .inr hRoom⟩
        simp only [hNext, hRoom, if_false, if_true]
      · refine .inr ⟨front, rest, rfl, ?_⟩
        simp only [hNext, hRoom, if_false]

theorem orderly_read (h : Orderly s) : Orderly s.afterRead := by
  rw [afterRead]
  rcases readQueue_cases h.probation with ⟨hRead, -⟩ | ⟨front, rest, hCache, hRead⟩
  · rw [hRead]
    simp only [Option.toList_none, List.append_nil]
    exact h
  · rw [hRead]
    obtain ⟨hLe, -, -⟩ := front_le_newest h hCache
    have hChain := h.chain
    rw [hCache] at hChain
    have hMem : front ∈ s.queue.cache := by
      rw [hCache]
      exact List.mem_cons_self
    refine ⟨h.probation, h.badCache, hChain.tail, ?_, ?_, ?_, ?_, ?_, ?_⟩
    · refine List.pairwise_append.mpr ⟨h.returned, List.pairwise_singleton _ front, ?_⟩
      intro p hp q hq
      obtain rfl : q = front := List.mem_singleton.mp hq
      exact h.behind p hp q hMem
    · intro p hp q hq
      rcases List.mem_append.mp hp with hp | hp
      · exact h.behind p hp q (by rw [hCache]; exact List.mem_cons_of_mem _ hq)
      · obtain rfl : p = front := List.mem_singleton.mp hp
        exact number_lt_of_chain hChain q hq
    · intro p hp
      apply h.back
      rw [hCache]
      exact List.mem_getLast?_cons hp
    · intro hEmpty
      refine ⟨front, List.mem_append_right _ (List.mem_singleton.mpr rfl), ?_⟩
      apply h.back
      rw [hCache, show rest = [] from hEmpty]
      rfl
    · intro p hp
      rcases List.mem_append.mp hp with hp | hp
      · exact h.atMost p hp
      · obtain rfl : p = front := List.mem_singleton.mp hp
        exact hLe
    · intro n hn
      rcases h.owed n hn with ⟨p, hp, hNumber⟩ | ⟨p, hp, hNumber⟩
      · exact .inl ⟨p, List.mem_append_left _ hp, hNumber⟩
      · rw [hCache] at hp
        rcases List.mem_cons.mp hp with rfl | hp
        · exact .inl ⟨p, List.mem_append_right _ (List.mem_singleton.mpr rfl), hNumber⟩
        · exact .inr ⟨p, hp, hNumber⟩

/-! ### Runs -/

theorem next_write_eq_some {s' : Delivery} :
    s.next (.write packet) = some s' ↔ s.InWindow packet ∧
      ∃ queue, s.queue.writeQueue packet = some queue ∧ s.afterWrite packet queue = s' := by
  rw [next, Option.ite_none_right_eq_some, Option.map_eq_some_iff]

theorem orderly_started {maxCacheSize : Nat} {first second third : RtpPacket}
    (hSecond : second.number = first.number + 1) (hThird : third.number = first.number + 2) :
    Orderly (started maxCacheSize first second third) where
  probation := rfl
  badCache := rfl
  chain := by
    refine .cons_cons ⟨?_, ?_⟩ (.cons_cons ⟨?_, ?_⟩ (.singleton third)) <;> omega
  returned := .nil
  behind p hp := by cases hp
  back p hp := by
    obtain rfl : third = p := Option.some.inj hp
    rfl
  drained hEmpty := by cases hEmpty
  atMost p hp := by cases hp
  owed n hn := by cases hn

theorem orderly_reached (h : (system.guard Allowed).Reached s) : Orderly s := by
  refine h.invariant ?_ ?_
  · rintro s ⟨maxCacheSize, first, second, third, hSecond, hThird, rfl⟩
    exact orderly_started hSecond hThird
  · intro s call s' hs hStep
    obtain ⟨hAllowed, hStep⟩ := hStep
    cases call with
    | write packet =>
      obtain ⟨hIn, queue, hWrite, rfl⟩ := next_write_eq_some.mp hStep
      obtain ⟨queue', hWrite', hWritten⟩ := written_allowed hs hIn hAllowed
      obtain rfl : queue = queue' := Option.some.inj (hWrite.symm.trans hWrite')
      exact orderly_written hs hWritten
    | read =>
      obtain rfl : s.afterRead = s' := Option.some.inj hStep
      exact orderly_read hs

theorem mem_cache_of_owed (h : Orderly s) {n m : Int} (hLess : n < m) (hOwed : m ∈ s.owed) {p : RtpPacket}
    (hp : p ∈ s.queue.cache) (hNumber : p.number = n) : ∃ q ∈ s.queue.cache, q.number = m := by
  rcases h.owed m hOwed with ⟨r, hr, hReturned⟩ | hQueued
  · have hBehind := h.behind r hr p hp
    omega
  · exact hQueued

/-- What is returned is in order; what is to be returned has been, or waits; and when a read returns
nothing, a packet has been returned that is as far behind others as there is room for. -/
structure Delivers (s : Delivery) : Prop where
  ordered : s.returned.Pairwise fun p q => p.number < q.number
  kept : ∀ n ∈ s.owed, s.Holds n
  returned : s.queue.readQueue.1 = none → ∀ n ∈ s.owed, ∀ later : List Int, later.Nodup →
    (∀ m ∈ later, m ∈ s.owed ∧ n < m) → s.queue.maxCacheSize ≤ later.length + 1 →
    ∃ p ∈ s.returned, p.number = n

theorem delivers_of_orderly (h : Orderly s) : s.Delivers where
  ordered := h.returned
  kept := h.owed
  returned hNone n hOwed later hNodup hLater hFull := by
    rcases h.owed n hOwed with hReturned | ⟨p, hp, hNumber⟩
    · exact hReturned
    · have hSubset : n :: later ⊆ s.queue.cache.map RtpPacket.number := by
        intro m hm
        rcases List.mem_cons.mp hm with rfl | hm
        · exact List.mem_map.mpr ⟨p, hp, hNumber⟩
        · obtain ⟨hOwed', hLess⟩ := hLater m hm
          exact List.mem_map.mpr (mem_cache_of_owed h hLess hOwed' hp hNumber)
      have hAll : (n :: later).Nodup :=
        List.nodup_cons.mpr ⟨fun hm => Int.lt_irrefl n (hLater n hm).2, hNodup⟩
      have hLength := hAll.length_le_of_subset hSubset
      rw [List.length_cons, List.length_map] at hLength
      rcases readQueue_cases h.probation with ⟨-, hEmpty | hRoom⟩ | ⟨front, rest, -, hRead⟩
      · rw [hEmpty, List.length_nil] at hLength
        omega
      · omega
      · rw [hRead] at hNone
        cases hNone

/-- As long as every packet is taken for what it is, the queue delivers, and it does not panic; and of the
packets that are to be returned it takes in those that are taken for what they are. -/
theorem queue_delivers (h : (system.guard Allowed).Reached s) :
    s.Delivers ∧
    (∀ packet, s.InWindow packet → s.Allowed (.write packet) →
      ∃ queue, s.queue.writeQueue packet = some queue) ∧
    ∀ packet, s.InWindow packet → s.Owes packet → s.HasRoom packet → ¬s.Holds packet.number →
      ∀ queue, s.queue.writeQueue packet = some queue →
        ((s.afterWrite packet queue).Holds packet.number ↔ s.WellClassified packet) := by
  have hOrderly := orderly_reached h
  refine ⟨delivers_of_orderly hOrderly, ?_, ?_⟩
  · intro packet hIn hAllowed
    obtain ⟨queue, hWrite, -⟩ := written_allowed hOrderly hIn hAllowed
    exact ⟨queue, hWrite⟩
  · intro packet hIn hOwes hRoom hNew queue hWrite
    constructor
    · intro hHolds
      by_contra hClass
      have hCache := cache_misclassified hOrderly hIn hOwes hClass hWrite
      rcases hHolds with hReturned | ⟨p, hp, hNumber⟩
      · exact hNew (.inl hReturned)
      · exact hNew (.inr ⟨p, hCache ▸ hp, hNumber⟩)
    · intro hClass
      obtain ⟨queue', hWrite', hWritten⟩ := written_allowed hOrderly hIn ⟨hClass, hRoom⟩
      obtain rfl : queue = queue' := Option.some.inj (hWrite.symm.trans hWrite')
      exact .inr (hWritten.owed hOwes)

theorem run_of_foldlM {calls : List QueueCall} {s s' : Delivery} (h : calls.foldlM next s = some s') :
    system.Run s calls s' := by
  induction calls generalizing s with
  | nil =>
    obtain rfl : s = s' := Option.some.inj h
    exact .nil s
  | cons call calls ih =>
    rw [List.foldlM_cons, Option.bind_eq_bind, Option.bind_eq_some_iff] at h
    obtain ⟨s1, hFirst, hRest⟩ := h
    exact .cons hFirst (ih hRest)

/-- Three packets, numbered from 1 on, in a queue with room for so many. -/
def three (maxCacheSize : Nat) : Delivery := started maxCacheSize ⟨1, [1]⟩ ⟨2, [2]⟩ ⟨3, [3]⟩

theorem three_init (maxCacheSize : Nat) : system.init (three maxCacheSize) :=
  ⟨maxCacheSize, _, _, _, rfl, rfl, rfl⟩

/-- The packet behind three others is returned after them. -/
theorem fourth_packet_delivered : ∃ s : Delivery, s.returned.map RtpPacket.number = [1, 2, 3, 4] ∧
    s.Delivers := by
  have hClass : (three 10).WellClassified ⟨4, [4]⟩ := by
    constructor <;> decide
  have hRoom : (three 10).HasRoom ⟨4, [4]⟩ := fun _ _ _ => by decide
  have hAllowed : (three 10).Allowed (.write ⟨4, [4]⟩) := ⟨hClass, hRoom⟩
  obtain ⟨s, hFourth⟩ : ∃ s, (three 10).next (.write ⟨4, [4]⟩) = some s := ⟨_, rfl⟩
  have hReads : (system.guard Allowed).Run s [.read, .read, .read, .read]
      s.afterRead.afterRead.afterRead.afterRead :=
    .cons ⟨trivial, rfl⟩ <| .cons ⟨trivial, rfl⟩ <| .cons ⟨trivial, rfl⟩ <| .cons ⟨trivial, rfl⟩ (.nil _)
  have hReached : (system.guard Allowed).Reached s.afterRead.afterRead.afterRead.afterRead :=
    ⟨three 10, _, three_init 10, .cons ⟨hAllowed, hFourth⟩ hReads⟩
  refine ⟨_, ?_, (queue_delivers hReached).1⟩
  cases hFourth
  decide

/-- When the first three packets have been returned, the fifth one may come before the fourth: the fourth
is then too late, although nothing later has been returned.  And the third one may come again: the queue,
being empty, takes it for a new one, and returns it again. -/
theorem late_packet_lost_and_repeated :
    (∃ s, system.Reached s ∧ ∃ n ∈ s.owed, ¬s.Holds n) ∧
    ∃ s, system.Reached s ∧ ¬s.returned.Pairwise fun p q => p.number < q.number := by
  constructor
  · have hRun : system.Run (three 10) [.read, .read, .read, .write ⟨5, [5]⟩, .write ⟨4, [4]⟩]
        ⟨{ RtpQueue.new 10 with probation := 0, firstOrderedSeq := 4, cache := [⟨5, [5]⟩] },
          [⟨1, [1]⟩, ⟨2, [2]⟩, ⟨3, [3]⟩], 5, [4, 5]⟩ := run_of_foldlM (by decide +kernel)
    refine ⟨_, ⟨three 10, _, three_init 10, hRun⟩, 4, List.mem_cons_self, ?_⟩
    rintro (⟨p, hp, hNumber⟩ | ⟨p, hp, hNumber⟩)
    · revert p
      decide
    · revert p
      decide
  · have hRun : system.Run (three 2) [.read, .read, .read, .write ⟨3, [3]⟩, .write ⟨4, [4]⟩, .read]
        ⟨{ RtpQueue.new 2 with probation := 0, firstOrderedSeq := 4, cache := [⟨4, [4]⟩] },
          [⟨1, [1]⟩, ⟨2, [2]⟩, ⟨3, [3]⟩, ⟨3, [3]⟩], 4, [4]⟩ := run_of_foldlM (by decide +kernel)
    refine ⟨_, ⟨three 2, _, three_init 2, hRun⟩, ?_⟩
    decide

end Delivery

end Xiu.Webrtc
