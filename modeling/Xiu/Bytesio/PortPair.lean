import Xiu.ProofKit.While

/-! The search for two adjacent ports of `library/bytesio/src/bytesio.rs`: it goes up from the port
that the system gives, and on from port 1 behind the last one. -/

namespace Xiu.Bytesio

open ProofKit

/-- The ports that can be bound while the search runs, and the one that port 0 stands for. -/
structure Ports where
  bindable : Nat → Bool
  any : Option Nat
  any_bindable : ∀ port ∈ any, bindable port = true ∧ 1 ≤ port ∧ port ≤ 65535
  none_bindable : any = none → ∀ port, 1 ≤ port → port ≤ 65535 → bindable port = false

/-- A sum of ports. -/
inductive PortFault where
  | overflow
  deriving DecidableEq

/-- An addition of `u16`, which panics when the sum does not fit. -/
def addPort (port n : Nat) : Except PortFault Nat :=
  if port + n < 65536 then .ok (port + n) else .error .overflow

/-- The port to go on from when a port can be bound and the one after it cannot. -/
def nextPort (port : Nat) : Except PortFault Nat := do
  let second ← addPort port 1
  if second = 65535 then pure 1 else addPort port 2

/-- The ports of a pair, or none. -/
abbrev PortPair := Except PortFault (Option (Nat × Nat))

namespace Ports

variable (ports : Ports)

/-- A turn of the loop, whose variable is `next_local_port`. -/
def scanTurn (firstLocalPort nextLocalPort : Nat) : Turn Nat PortPair :=
  let goOn : Except PortFault Nat → Turn Nat PortPair
    | .ok port => .again port
    | .error e => .done (.error e)
  if nextLocalPort = 65535 then .again 1
  else if nextLocalPort = firstLocalPort then .done (.ok none)
  else if ports.bindable nextLocalPort then
    match addPort nextLocalPort 1 with
    | .error e => .done (.error e)
    | .ok second =>
      if ports.bindable second then .done (.ok (some (nextLocalPort, second)))
      else goOn (nextPort nextLocalPort)
  else goOn (addPort nextLocalPort 1)

/-- What comes before the loop, with the port that the system has given. -/
def firstTurn (firstLocalPort : Nat) : Turn Nat PortPair :=
  if firstLocalPort = 65535 then .again 1
  else
    match addPort firstLocalPort 1 with
    | .error e => .done (.error e)
    | .ok second =>
      if ports.bindable second then .done (.ok (some (firstLocalPort, second)))
      else
        match nextPort firstLocalPort with
        | .error e => .done (.error e)
        | .ok port => .again port

/-- `new_udpio_pair` returns, with this result. -/
def Returns (result : PortPair) : Prop :=
  match ports.any with
  | none => result = .ok none
  | some firstLocalPort =>
    match ports.firstTurn firstLocalPort with
    | .done r => result = r
    | .again port => Ends (ports.scanTurn firstLocalPort) port result

/-- A port and the one after it can be bound. -/
structure Adjacent (port : Nat) : Prop where
  low : 1 ≤ port
  high : port + 1 ≤ 65535
  first : ports.bindable port = true
  second : ports.bindable (port + 1) = true

/-- Two adjacent ports where there are any, and none where there are none. -/
def Right : PortPair → Prop
  | .ok (some (port, second)) => second = port + 1 ∧ ports.Adjacent port
  | .ok none => ∀ port, ¬ports.Adjacent port
  | .error _ => False

variable {ports}

theorem addPort_ok {port n : Nat} (h : port + n < 65536) : addPort port n = .ok (port + n) :=
  if_pos h

theorem nextPort_ok {port : Nat} (h : port < 65535) :
    nextPort port = .ok (if port + 1 = 65535 then 1 else port + 2) := by
  rw [nextPort, addPort_ok (by omega)]
  change (if port + 1 = 65535 then pure 1 else addPort port 2) = _
  split
  · rfl
  · exact addPort_ok (by omega)

/-- A turn at a port below the last one, and not the first one: it ends with a pair, or the port has
no pair and the next one to look at lies behind it, behind one that cannot be bound, or at 1. -/
theorem scanTurn_cases {firstLocalPort port : Nat} (hLow : 1 ≤ port) (hHigh : port < 65535)
    (hOther : port ≠ firstLocalPort) :
    ports.scanTurn firstLocalPort port = .done (.ok (some (port, port + 1))) ∧
        ports.Adjacent port ∨
      ¬ports.Adjacent port ∧ ∃ next, ports.scanTurn firstLocalPort port = .again next ∧
        (next = port + 1 ∨ ports.bindable (port + 1) = false ∧
          (port + 1 = 65535 ∧ next = 1 ∨ port + 2 ≤ 65535 ∧ next = port + 2)) := by
  have hSecond := addPort_ok (show port + 1 < 65536 by omega)
  simp only [scanTurn, if_neg (show port ≠ 65535 by omega), if_neg hOther, hSecond,
    nextPort_ok hHigh]
  cases hBind : ports.bindable port with
  | false =>
    refine .inr ⟨fun h => ?_, port + 1, rfl, .inl rfl⟩
    exact Bool.false_ne_true (hBind.symm.trans h.first)
  | true =>
    cases hNext : ports.bindable (port + 1) with
    | true => exact .inl ⟨rfl, hLow, by omega, hBind, hNext⟩
    | false =>
      refine .inr ⟨fun h => Bool.false_ne_true (hNext.symm.trans h.second), _, rfl, .inr ⟨rfl, ?_⟩⟩
      split
      · exact .inl ⟨‹_›, rfl⟩
      · exact .inr ⟨by omega, rfl⟩

/-- Which ports have been looked at when the loop is at a port: all from the first one up to it, and
all but those behind it once it has begun again. -/
structure Searched (ports : Ports) (firstLocalPort port : Nat) : Prop where
  low : 1 ≤ port
  high : port ≤ 65535
  up : firstLocalPort < port → ∀ p, ports.Adjacent p → p < firstLocalPort ∨ port ≤ p
  again : port ≤ firstLocalPort → ∀ p, ports.Adjacent p → port ≤ p ∧ p < firstLocalPort

/-- How many ports the loop may still come to. -/
def toSearch (firstLocalPort port : Nat) : Nat :=
  if firstLocalPort < port then 65536 - port + firstLocalPort else firstLocalPort - port

/-- A turn keeps what has been searched, and comes nearer to the first port. -/
theorem searched_turn {firstLocalPort port next : Nat} (hAny : ports.any = some firstLocalPort)
    (hPair : firstLocalPort = 65535 → ∃ p, ports.Adjacent p)
    (h : ports.Searched firstLocalPort port)
    (hTurn : ports.scanTurn firstLocalPort port = .again next) :
    ports.Searched firstLocalPort next ∧
      toSearch firstLocalPort next < toSearch firstLocalPort port := by
  obtain ⟨hBind, hFirstLow, hFirstHigh⟩ := ports.any_bindable firstLocalPort hAny
  obtain ⟨hLow, hHigh, hUp, hAgain⟩ := h
  by_cases hLast : port = 65535
  · have hNext : next = 1 := by
      rw [scanTurn, if_pos hLast] at hTurn
      exact (Turn.again.inj hTurn).symm
    have hBelow : firstLocalPort < port := by
      by_contra hNot
      obtain ⟨p, hp⟩ := hPair (by omega)
      have := hAgain (by omega) p hp
      omega
    subst hNext hLast
    refine ⟨⟨by omega, by omega, by omega, fun _ p hp => ⟨hp.low, ?_⟩⟩, ?_⟩
    · rcases hUp hBelow p hp with hp' | hp'
      · exact hp'
      · have := hp.high
        omega
    · rw [toSearch, toSearch, if_pos hBelow, if_neg (by omega)]
      omega
  by_cases hEnd : port = firstLocalPort
  · rw [scanTurn, if_neg hLast, if_pos hEnd] at hTurn
    cases hTurn
  rcases scanTurn_cases hLow (by omega) hEnd with ⟨hDone, -⟩ | ⟨hNone, next', hNext, hWhere⟩
  · cases hDone.symm.trans hTurn
  obtain rfl := Turn.again.inj (hNext.symm.trans hTurn)
  have hFree : ∀ p, ports.Adjacent p → p ≠ port := fun p hp hEq => hNone (hEq ▸ hp)
  rcases hWhere with rfl | ⟨hFalse, hWhere⟩
  · -- the next port
    refine ⟨⟨by omega, by omega, fun hLt p hp => ?_, fun hLe p hp => ?_⟩, ?_⟩
    · have hpPort := hFree p hp
      have := hUp (by omega) p hp
      omega
    · have hpPort := hFree p hp
      have := hAgain (by omega) p hp
      omega
    · unfold toSearch
      split <;> split <;> omega
  have hFirst : port + 1 ≠ firstLocalPort := fun hEq => by
    rw [hEq, hBind] at hFalse
    cases hFalse
  have hFreeNext : ∀ p, ports.Adjacent p → p ≠ port + 1 := fun p hp hEq => by
    rw [hEq] at hp
    exact Bool.false_ne_true (hFalse.symm.trans hp.first)
  rcases hWhere with ⟨hTop, rfl⟩ | ⟨hTop, rfl⟩
  · -- from the last pair to port 1
    refine ⟨⟨by omega, by omega, by omega, fun _ p hp => ⟨hp.low, ?_⟩⟩, ?_⟩
    · have hpPort := hFree p hp
      have hpHigh := hp.high
      have := hUp (by omega) p hp
      omega
    · unfold toSearch
      split <;> split <;> omega
  · -- a port that cannot be bound is passed over
    refine ⟨⟨by omega, by omega, fun hLt p hp => ?_, fun hLe p hp => ?_⟩, ?_⟩
    · have hpPort := hFree p hp
      have hpNext := hFreeNext p hp
      have := hUp (by omega) p hp
      omega
    · have hpPort := hFree p hp
      have hpNext := hFreeNext p hp
      have := hAgain (by omega) p hp
      omega
    · unfold toSearch
      split <;> split <;> omega

/-- Where the loop ends, its result is right. -/
theorem right_of_done {firstLocalPort port : Nat} {result : PortPair}
    (h : ports.Searched firstLocalPort port)
    (hTurn : ports.scanTurn firstLocalPort port = .done result) : ports.Right result := by
  by_cases hLast : port = 65535
  · rw [scanTurn, if_pos hLast] at hTurn
    cases hTurn
  by_cases hEnd : port = firstLocalPort
  · rw [scanTurn, if_neg hLast, if_pos hEnd] at hTurn
    obtain rfl := Turn.done.inj hTurn
    intro p hp
    have := h.again (by omega) p hp
    omega
  have hHigh := h.high
  rcases scanTurn_cases h.low (by omega) hEnd with ⟨hDone, hPair⟩ | ⟨-, next, hNext, -⟩
  · obtain rfl := Turn.done.inj (hDone.symm.trans hTurn)
    exact ⟨rfl, hPair⟩
  · cases hNext.symm.trans hTurn

/-- What comes before the loop: it ends with a pair, or leaves the loop where it has searched the
first port. -/
theorem firstTurn_cases {firstLocalPort : Nat} (hAny : ports.any = some firstLocalPort) :
    ports.firstTurn firstLocalPort =
          .done (.ok (some (firstLocalPort, firstLocalPort + 1))) ∧
        ports.Adjacent firstLocalPort ∨
      ∃ next, ports.firstTurn firstLocalPort = .again next ∧
        ports.Searched firstLocalPort next := by
  obtain ⟨hBind, hLow, hHigh⟩ := ports.any_bindable firstLocalPort hAny
  by_cases hLast : firstLocalPort = 65535
  · refine .inr ⟨1, if_pos hLast, ⟨by omega, by omega, by omega, fun _ p hp => ⟨hp.low, ?_⟩⟩⟩
    have := hp.high
    omega
  have hSecond := addPort_ok (show firstLocalPort + 1 < 65536 by omega)
  simp only [firstTurn, if_neg hLast, hSecond,
    nextPort_ok (show firstLocalPort < 65535 by omega)]
  cases hNext : ports.bindable (firstLocalPort + 1) with
  | true => exact .inl ⟨rfl, hLow, by omega, hBind, hNext⟩
  | false =>
    have hFirst : ∀ p, ports.Adjacent p → p ≠ firstLocalPort := fun p hp hEq => by
      rw [hEq] at hp
      exact Bool.false_ne_true (hNext.symm.trans hp.second)
    have hAfter : ∀ p, ports.Adjacent p → p ≠ firstLocalPort + 1 := fun p hp hEq => by
      rw [hEq] at hp
      exact Bool.false_ne_true (hNext.symm.trans hp.first)
    refine .inr ⟨_, rfl, ?_⟩
    split
    · refine ⟨by omega, by omega, by omega, fun _ p hp => ⟨hp.low, ?_⟩⟩
      have hpFirst := hFirst p hp
      have := hp.high
      omega
    · refine ⟨by omega, by omega, fun _ p hp => ?_, fun hLe => by omega⟩
      have hpFirst := hFirst p hp
      have hpAfter := hAfter p hp
      omega

/-- The loop comes round to port 1 for ever when the first port is the last one and there is no
pair. -/
theorem scan_diverges (hNone : ∀ port, ¬ports.Adjacent port) {port : Nat} (hLow : 1 ≤ port)
    (hHigh : port ≤ 65535) : ¬∃ result, Ends (ports.scanTurn 65535) port result := by
  apply Ends.not_of_invariant (I := fun port => 1 ≤ port ∧ port ≤ 65535)
  · rintro port ⟨hLow, hHigh⟩
    by_cases hLast : port = 65535
    · exact ⟨1, if_pos hLast, by omega, by omega⟩
    rcases scanTurn_cases hLow (by omega) hLast with ⟨-, hPair⟩ | ⟨-, next, hNext, hWhere⟩
    · exact absurd hPair (hNone port)
    · exact ⟨next, hNext, by omega, by omega⟩
  · exact ⟨hLow, hHigh⟩

/-- The search returns, and what it should, if and only if the system does not give the last port
while no two adjacent ports can be bound. -/
theorem newUdpioPair_iff (ports : Ports) :
    (∃ result, ports.Returns result ∧ ports.Right result) ↔
      (ports.any = some 65535 → ∃ port, ports.Adjacent port) := by
  cases hAny : ports.any with
  | none =>
    refine iff_of_true ⟨.ok none, ?_, fun p hp => ?_⟩ (by rintro ⟨⟩)
    · rw [Returns, hAny]
    · have hFree := ports.none_bindable hAny p hp.low (by have := hp.high; omega)
      exact Bool.false_ne_true (hFree.symm.trans hp.first)
  | some firstLocalPort =>
    rw [Option.some.injEq]
    rcases firstTurn_cases hAny with ⟨hDone, hPair⟩ | ⟨next, hNext, hSearched⟩
    · refine iff_of_true ⟨.ok (some (firstLocalPort, firstLocalPort + 1)), ?_, rfl, hPair⟩ fun _ =>
        ⟨_, hPair⟩
      simp only [Returns, hAny, hDone]
    have hReturns : ∀ result, ports.Returns result ↔
        Ends (ports.scanTurn firstLocalPort) next result := by
      intro result
      simp only [Returns, hAny, hNext]
    constructor
    · rintro ⟨result, hResult, -⟩ rfl
      by_contra hNone
      exact scan_diverges (not_exists.mp hNone) hSearched.low hSearched.high
        ⟨result, (hReturns result).mp hResult⟩
    · intro hPair
      obtain ⟨result, hEnds⟩ := Ends.exists_of_measure (toSearch firstLocalPort)
        (fun _ _ hs hTurn => searched_turn hAny hPair hs hTurn) hSearched
      refine ⟨result, (hReturns result).mpr hEnds, ?_⟩
      exact hEnds.spec (fun _ _ hs hTurn => (searched_turn hAny hPair hs hTurn).1)
        (fun _ _ hs hTurn => right_of_done hs hTurn) hSearched

/-- When only the last port can be bound, the search does not return. -/
theorem lastPort_diverges : ∃ ports : Ports, ports.any = some 65535 ∧
    (∀ port, ports.bindable port = true ↔ port = 65535) ∧ ¬∃ result, ports.Returns result := by
  let ports : Ports :=
    { bindable := fun port => port == 65535
      any := some 65535
      any_bindable := by
        rintro port ⟨⟩
        exact ⟨rfl, by omega, by omega⟩
      none_bindable := by rintro ⟨⟩ }
  have hBind : ∀ port, ports.bindable port = true ↔ port = 65535 := fun port => beq_iff_eq
  refine ⟨ports, rfl, hBind, ?_⟩
  have hNone : ∀ port, ¬ports.Adjacent port := fun port hp => by
    have hFirst := (hBind port).mp hp.first
    have := hp.high
    omega
  exact scan_diverges hNone (show 1 ≤ 1 by omega) (by omega)

end Ports

end Xiu.Bytesio
