import Xiu.ProofKit.System
import Xiu.Rtsp.Rtcp.Source

/-! That the statistics of a source are exact, as long as no sum overflows: its 16-bit sequence numbers
are lifted to the numbers that the sender counts. -/

namespace Xiu.Rtsp.Rtcp

open ProofKit

/-- What has been received since the last `init_seq`: the first number, the highest one, and how many
packets. -/
structure Since where
  first : Int
  highest : Int
  count : Nat

/-- A source with what it has received, if it has left probation. -/
structure Reception where
  source : RtcpSource
  since : Option Since

/-- What has been received with one packet more. -/
def Reception.sinceAfter (s : Reception) (source : RtcpSource) (t : Int) : Option Since :=
  if s.source.probation > 0 then
    if source.probation = 0 then some ⟨t, t, 1⟩ else none
  else s.since.map fun since => { since with highest := max since.highest t, count := since.count + 1 }

/-- A source that receives packets, by their numbers as the sender counts them. -/
def reception : System Reception Int where
  init s := ∃ ssrc seq sampleRate context,
    RtcpContext.new ssrc seq sampleRate = some context ∧ s = ⟨context.source, none⟩
  step s t s' := ∃ source valid, s.source.updateSequence (serial t) = some (source, valid) ∧
    s' = ⟨source, s.sinceAfter source t⟩

/-- A packet that is less than 3000 ahead of the highest one, or less than 100 behind it. -/
def InWindow (s : Reception) (t : Int) : Prop :=
  ∀ since ∈ s.since, t < since.highest + 3000 ∧ since.highest - 100 < t

/-- The highest number, counted from the cycle of the first one, and the number of packets. -/
def Exact (s : Reception) : Prop :=
  ∀ since ∈ s.since,
    (s.source.cycles.toNat + s.source.maxSeq.toNat : Int) =
      since.highest - 65536 * (since.first / 65536) ∧
    s.source.received.toNat = since.count

/-- No sum overflows when a packet comes. -/
def Fits (source : RtcpSource) (seq : UInt16) : Prop :=
  if source.probation > 0 then source.maxSeq ≠ 65535
  else
    source.received.toNat + 1 < 2 ^ 32 ∧
      (distance seq source.maxSeq < MAX_DROPOUT → seq < source.maxSeq →
        source.cycles.toNat + 65536 < 2 ^ 32)

/-! ### One packet -/

theorem addU16_isSome {a b : UInt16} : (addU16 a b).isSome ↔ a.toNat + b.toNat < 2 ^ 16 := by
  simp only [addU16]
  split
  · rename_i hFits
    exact ⟨fun _ => hFits, fun _ => rfl⟩
  · rename_i hFull
    exact ⟨fun h => (nomatch h), fun h => absurd h hFull⟩

theorem addU32_eq {a b : UInt32} (h : a.toNat + b.toNat < 2 ^ 32) : addU32 a b = some (a + b) :=
  if_pos h

theorem addU32_isSome {a b : UInt32} : (addU32 a b).isSome ↔ a.toNat + b.toNat < 2 ^ 32 := by
  simp only [addU32]
  split
  · rename_i hFits
    exact ⟨fun _ => hFits, fun _ => rfl⟩
  · rename_i hFull
    exact ⟨fun h => (nomatch h), fun h => absurd h hFull⟩

theorem toNat_distance (new old : UInt16) :
    ((distance new old).toNat : Int) = ((new.toNat : Int) - old.toNat) % 65536 := by
  have hNew := new.toNat_lt
  have hOld := old.toNat_lt
  unfold distance
  split
  · rename_i h
    have hLt := UInt16.lt_iff_toNat_lt.mp h
    have hMax : (65535 : UInt16).toNat = 65535 := rfl
    have hOne : (1 : UInt16).toNat = 1 := rfl
    rw [UInt16.toNat_add, UInt16.toNat_add, UInt16.toNat_sub, hMax, hOne]
    omega
  · rename_i h
    have hLe := Nat.not_lt.mp fun hLt => h (UInt16.lt_iff_toNat_lt.mpr hLt)
    rw [UInt16.toNat_sub]
    omega

/-- What the fields of a source are, once it has left probation. -/
structure Lifted (source : RtcpSource) (since : Since) : Prop where
  probation : source.probation = 0
  maxSeq : source.maxSeq = serial since.highest
  ordered : since.first ≤ since.highest
  cycles : (source.cycles.toNat : Int) = 65536 * (since.highest / 65536 - since.first / 65536)
  received : source.received.toNat = since.count

theorem count_isSome (source : RtcpSource) :
    source.count.isSome ↔ source.received.toNat + 1 < 2 ^ 32 := by
  rw [RtcpSource.count, Option.isSome_map]
  exact addU32_isSome

theorem count_eq {source source' : RtcpSource} {valid : Nat}
    (h : source.count = some (source', valid)) :
    source' = { source with received := source.received + 1 } ∧
      source'.received.toNat = source.received.toNat + 1 := by
  obtain ⟨received, hReceived, hEq⟩ := Option.map_eq_some_iff.mp h
  obtain ⟨rfl, rfl⟩ := Prod.mk.inj hEq
  have hFits := addU32_isSome.mp (Option.isSome_iff_exists.mpr ⟨received, hReceived⟩)
  have hOne : (1 : UInt32).toNat = 1 := rfl
  rw [addU32_eq hFits] at hReceived
  obtain rfl := Option.some.inj hReceived
  refine ⟨rfl, ?_⟩
  show (source.received + 1).toNat = _
  rw [UInt32.toNat_add, hOne]
  omega

theorem inOrder_isSome (source : RtcpSource) (seq : UInt16) :
    (source.inOrder seq).isSome ↔ source.received.toNat + 1 < 2 ^ 32 ∧
      (seq < source.maxSeq → source.cycles.toNat + 65536 < 2 ^ 32) := by
  have hMod : RTP_SEQ_MOD.toNat = 65536 := rfl
  rw [RtcpSource.inOrder]
  split
  · rename_i hLt
    have hCycles := addU32_isSome (a := source.cycles) (b := RTP_SEQ_MOD)
    rw [hMod] at hCycles
    cases hSum : addU32 source.cycles RTP_SEQ_MOD with
    | none =>
      rw [hSum] at hCycles
      exact iff_of_false Bool.false_ne_true fun h => absurd (hCycles.mpr (h.2 hLt)) Bool.false_ne_true
    | some cycles =>
      rw [hSum] at hCycles
      refine (count_isSome _).trans ⟨fun h => ⟨h, fun _ => hCycles.mp rfl⟩, And.left⟩
  · rename_i hLt
    exact (count_isSome _).trans ⟨fun h => ⟨h, fun h => absurd h hLt⟩, And.left⟩

section Lifted

variable {source source' : RtcpSource} {since : Since} {t : Int}

/-- A packet in the window that is not behind the highest one. -/
theorem Lifted.ahead (h : Lifted source since) (hAhead : since.highest ≤ t)
    (hNear : t < since.highest + 3000) :
    distance (serial t) source.maxSeq < MAX_DROPOUT ∧
      source.updateSequence (serial t) = source.inOrder (serial t) := by
  have hDistance := toNat_distance (serial t) source.maxSeq
  have hSerial := toNat_serial t
  have hHighest := toNat_serial since.highest
  have hDelta : distance (serial t) source.maxSeq < MAX_DROPOUT := by
    rw [UInt16.lt_iff_toNat_lt]
    show _ < 3000
    rw [h.maxSeq] at hDistance ⊢
    omega
  refine ⟨hDelta, ?_⟩
  unfold RtcpSource.updateSequence
  rw [h.probation]
  exact if_pos hDelta

/-- A packet in the window that is behind the highest one. -/
theorem Lifted.behind (h : Lifted source since) (hBehind : t < since.highest)
    (hNear : since.highest - 100 < t) :
    ¬distance (serial t) source.maxSeq < MAX_DROPOUT ∧
      source.updateSequence (serial t) = source.count := by
  have hDistance := toNat_distance (serial t) source.maxSeq
  have hSerial := toNat_serial t
  have hHighest := toNat_serial since.highest
  rw [h.maxSeq] at hDistance
  have hDelta : ¬distance (serial t) source.maxSeq < MAX_DROPOUT := by
    rw [UInt16.lt_iff_toNat_lt, h.maxSeq]
    show ¬_ < 3000
    omega
  have hFar : ¬(distance (serial t) source.maxSeq).toUInt32 ≤ RTP_SEQ_MOD - MAX_MISORDER := by
    rw [UInt32.le_iff_toNat_le, UInt16.toNat_toUInt32, h.maxSeq]
    show ¬_ ≤ 65436
    omega
  refine ⟨hDelta, ?_⟩
  unfold RtcpSource.updateSequence
  rw [h.probation]
  exact (if_neg hDelta).trans (if_neg hFar)

/-- The wrap of the sequence number is the step to the next cycle. -/
theorem Lifted.wraps (h : Lifted source since) (hAhead : since.highest ≤ t)
    (hNear : t < since.highest + 3000) :
    (t / 65536 : Int) = since.highest / 65536 + if serial t < source.maxSeq then 1 else 0 := by
  have hIff := serial_lt_iff t since.highest
  rw [h.maxSeq]
  split
  · rename_i hLt
    have := hIff.mp hLt
    omega
  · rename_i hLt
    have := mt hIff.mpr hLt
    omega

/-- The fields after a packet ahead. -/
theorem Lifted.inOrder (h : Lifted source since) (hAhead : since.highest ≤ t)
    (hNear : t < since.highest + 3000) {valid : Nat}
    (hRun : source.inOrder (serial t) = some (source', valid)) :
    Lifted source' { since with highest := max since.highest t, count := since.count + 1 } := by
  obtain ⟨cycles, hCycles, hCount⟩ := Option.bind_eq_some_iff.mp hRun
  obtain ⟨rfl, hReceived⟩ := count_eq hCount
  have hWraps := h.wraps hAhead hNear
  have hMax : max since.highest t = t := Int.max_eq_right hAhead
  have hOld := h.cycles
  have hOrdered := h.ordered
  refine ⟨h.probation, ?_, ?_, ?_, ?_⟩
  · exact congrArg serial hMax.symm
  · exact Int.le_trans h.ordered (Int.le_max_left ..)
  · show (cycles.toNat : Int) = 65536 * (max since.highest t / 65536 - since.first / 65536)
    rw [hMax, hWraps]
    split at hCycles
    · rename_i hLt
      have hFits := addU32_isSome.mp (Option.isSome_iff_exists.mpr ⟨cycles, hCycles⟩)
      rw [addU32_eq hFits] at hCycles
      obtain rfl := Option.some.inj hCycles
      have hMod : RTP_SEQ_MOD.toNat = 65536 := rfl
      rw [UInt32.toNat_add, hMod, if_pos hLt]
      omega
    · rename_i hLt
      obtain rfl := Option.some.inj hCycles
      rw [if_neg hLt]
      omega
  · show (source.received + 1).toNat = since.count + 1
    exact hReceived.trans (congrArg (· + 1) h.received)

/-- The fields after a packet behind. -/
theorem Lifted.count (h : Lifted source since) (hBehind : t < since.highest) {valid : Nat}
    (hRun : source.count = some (source', valid)) :
    Lifted source' { since with highest := max since.highest t, count := since.count + 1 } := by
  obtain ⟨rfl, hReceived⟩ := count_eq hRun
  have hMax : max since.highest t = since.highest := Int.max_eq_left (Int.le_of_lt hBehind)
  refine ⟨h.probation, ?_, ?_, ?_, ?_⟩
  · exact h.maxSeq.trans (congrArg serial hMax.symm)
  · exact Int.le_trans h.ordered (Int.le_max_left ..)
  · show (source.cycles.toNat : Int) = 65536 * (max since.highest t / 65536 - _)
    rw [hMax]
    exact h.cycles
  · show (source.received + 1).toNat = since.count + 1
    exact hReceived.trans (congrArg (· + 1) h.received)

/-- When a packet in the window overflows nothing. -/
theorem Lifted.isSome_iff (h : Lifted source since) (hWindow : t < since.highest + 3000 ∧
    since.highest - 100 < t) : (source.updateSequence (serial t)).isSome ↔ Fits source (serial t) := by
  unfold Fits
  rw [h.probation]
  show _ ↔ _ ∧ _
  rcases Int.lt_or_le t since.highest with hBehind | hAhead
  · obtain ⟨hDelta, hRun⟩ := h.behind hBehind hWindow.2
    rw [hRun, count_isSome]
    exact ⟨fun hFits => ⟨hFits, fun hNear => absurd hNear hDelta⟩, And.left⟩
  · obtain ⟨hDelta, hRun⟩ := h.ahead hAhead hWindow.1
    rw [hRun, inOrder_isSome]
    exact and_congr Iff.rfl ⟨fun hFits _ => hFits, fun hFits => hFits hDelta⟩

end Lifted

/-! ### Probation -/

theorem onProbation_isSome (source : RtcpSource) (seq : UInt16) :
    (source.onProbation seq).isSome ↔ source.maxSeq ≠ 65535 := by
  have hNext : (addU16 source.maxSeq 1).isSome ↔ source.maxSeq ≠ 65535 := by
    have hOne : (1 : UInt16).toNat = 1 := rfl
    have hMax : (65535 : UInt16).toNat = 65535 := rfl
    have hLt := source.maxSeq.toNat_lt
    rw [addU16_isSome, Ne, ← UInt16.toNat_inj, hOne, hMax]
    omega
  rw [← hNext, RtcpSource.onProbation]
  cases addU16 source.maxSeq 1 with
  | none => exact Iff.rfl
  | some next =>
    simp only [Option.bind_some, Option.isSome_some, iff_true]
    split
    · split
      · exact (count_isSome _).mpr (by decide : (0 : UInt32).toNat + 1 < 2 ^ 32)
      · rfl
    · rfl

/-- A packet that ends probation is the first one. -/
theorem onProbation_eq {source source' : RtcpSource} {seq : UInt16} {valid : Nat}
    (h : source.onProbation seq = some (source', valid)) :
    source'.probation = 0 → source'.maxSeq = seq ∧ source'.cycles = 0 ∧ source'.received = 1 := by
  obtain ⟨next, hNext, h⟩ := Option.bind_eq_some_iff.mp h
  split at h
  · dsimp only at h
    split at h
    · obtain ⟨rfl, -⟩ := count_eq h
      exact fun _ => ⟨rfl, rfl, rfl⟩
    · rename_i hProbation
      obtain ⟨rfl, -⟩ := Prod.mk.inj (Option.some.inj h)
      exact fun hZero => absurd hZero hProbation
  · obtain ⟨rfl, -⟩ := Prod.mk.inj (Option.some.inj h)
    exact fun hZero => absurd hZero (by decide : ¬MIN_SEQUENTIAL - 1 = 0)

/-! ### Whole runs -/

/-- What holds of a source at any time. -/
def Tracked (s : Reception) : Prop :=
  s.source.probation > 0 ∧ s.since = none ∨ ∃ since, s.since = some since ∧ Lifted s.source since

theorem tracked_step {s s' : Reception} {t : Int} (h : Tracked s) (hWindow : InWindow s t)
    (hStep : reception.step s t s') : Tracked s' := by
  obtain ⟨source, valid, hRun, rfl⟩ := hStep
  rcases h with ⟨hProbation, hNone⟩ | ⟨since, hSince, hLifted⟩
  · have hRun' : s.source.onProbation (serial t) = some (source, valid) :=
      (if_pos hProbation).symm.trans hRun
    by_cases hZero : source.probation = 0
    · obtain ⟨hMax, hCycles, hReceived⟩ := onProbation_eq hRun' hZero
      refine .inr ⟨⟨t, t, 1⟩, ?_, hZero, hMax, Int.le_refl t, ?_, ?_⟩
      · simp only [Reception.sinceAfter, if_pos hProbation, if_pos hZero]
      · rw [hCycles]
        show (0 : Int) = 65536 * (t / 65536 - t / 65536)
        omega
      · rw [hReceived]
        rfl
    · refine .inl ⟨?_, ?_⟩
      · rw [gt_iff_lt, UInt32.lt_iff_toNat_lt]
        exact Nat.pos_of_ne_zero fun hNat => hZero (UInt32.toNat_inj.mp hNat)
      · simp only [Reception.sinceAfter, if_pos hProbation, if_neg hZero]
  · have hNot : ¬s.source.probation > 0 := by
      rw [hLifted.probation]
      decide
    obtain ⟨hAheadNear, hBehindNear⟩ := hWindow since hSince
    refine .inr ⟨{ since with highest := max since.highest t, count := since.count + 1 }, ?_, ?_⟩
    · simp only [Reception.sinceAfter, if_neg hNot, hSince, Option.map_some]
    · rcases Int.lt_or_le t since.highest with hBehind | hAhead
      · exact hLifted.count hBehind ((hLifted.behind hBehind hBehindNear).2.symm.trans hRun)
      · exact hLifted.inOrder hAhead hAheadNear
          ((hLifted.ahead hAhead hAheadNear).2.symm.trans hRun)

theorem Tracked.exact {s : Reception} (h : Tracked s) : Exact s := by
  intro since hSince
  rcases h with ⟨-, hNone⟩ | ⟨since', hSince', hLifted⟩
  · rw [hNone] at hSince
    cases hSince
  · obtain rfl := Option.some.inj (hSince'.symm.trans hSince)
    have hMax := toNat_serial since'.highest
    refine ⟨?_, hLifted.received⟩
    rw [hLifted.cycles, hLifted.maxSeq, hMax]
    omega

theorem Tracked.isSome_iff {s : Reception} (h : Tracked s) {t : Int} (hWindow : InWindow s t) :
    (s.source.updateSequence (serial t)).isSome ↔ Fits s.source (serial t) := by
  rcases h with ⟨hProbation, -⟩ | ⟨since, hSince, hLifted⟩
  · have hRun : s.source.updateSequence (serial t) = s.source.onProbation (serial t) :=
      if_pos hProbation
    rw [hRun, onProbation_isSome, Fits, if_pos hProbation]
  · exact hLifted.isSome_iff (hWindow since hSince)

theorem new_isSome_iff (ssrc : UInt32) (seq : UInt16) (sampleRate : UInt32) :
    (RtcpContext.new ssrc seq sampleRate).isSome ↔ seq ≠ 0 := by
  have hOne : (1 : UInt16).toNat = 1 := rfl
  have hZero : (0 : UInt16).toNat = 0 := rfl
  rw [RtcpContext.new, Option.isSome_map, subU16, Ne, ← UInt16.toNat_inj, hZero]
  split
  · rename_i h
    rw [UInt16.le_iff_toNat_le, hOne] at h
    exact iff_of_true rfl (by omega)
  · rename_i h
    rw [UInt16.le_iff_toNat_le, hOne] at h
    exact iff_of_false Bool.false_ne_true (by omega)

/-- In every run of packets in the window, the statistics are exact.  A first sequence number other than
0 starts a run, and a packet goes on with it exactly when no sum overflows. -/
theorem updateSequence_exact (ssrc : UInt32) (seq : UInt16) (sampleRate : UInt32) (s : Reception) :
    ((RtcpContext.new ssrc seq sampleRate).isSome ↔ seq ≠ 0) ∧
      ((reception.guard InWindow).Reached s →
        Exact s ∧ ∀ t, InWindow s t →
          ((s.source.updateSequence (serial t)).isSome ↔ Fits s.source (serial t))) := by
  refine ⟨new_isSome_iff ssrc seq sampleRate, fun hReached => ?_⟩
  have hTracked : Tracked s := by
    refine hReached.invariant ?_ ?_
    · rintro s ⟨ssrc, seq, sampleRate, context, hNew, rfl⟩
      obtain ⟨maxSeq, -, rfl⟩ := Option.map_eq_some_iff.mp hNew
      exact .inl ⟨(by decide : MIN_SEQUENTIAL > 0), rfl⟩
    · rintro s t s' hs ⟨hWindow, hStep⟩
      exact tracked_step hs hWindow hStep
  exact ⟨hTracked.exact, fun t hWindow => hTracked.isSome_iff hWindow⟩

/-- A first sequence number of 0 panics, and so does a second packet after 65535 came first. -/
theorem firstNumber_overflows :
    RtcpContext.new 0 0 90000 = none ∧
      ∃ s, (reception.guard InWindow).Reached s ∧ InWindow s 65536 ∧
        s.source.updateSequence (serial 65536) = none := by
  refine ⟨by decide +kernel, ⟨⟨65535, 0, 0, 0, 1, 0, 0, 0⟩, none⟩, ?_, nofun, by decide⟩
  refine ⟨⟨⟨65534, 0, 0, 0, 2, 0, 0, 0⟩, none⟩, [65535], ⟨0, 65535, 90000, _, rfl, rfl⟩,
    .cons ⟨nofun, ⟨65535, 0, 0, 0, 1, 0, 0, 0⟩, 0, by decide, rfl⟩ (.nil _)⟩

end Xiu.Rtsp.Rtcp
