import Mathlib.Tactic.Common

/-! Logs in which some entries take a thing and some give one back: what is held after a log, and that
nothing is given back that is not held. -/

namespace Xiu.ProofKit

/-- What an entry takes, and what it gives back. -/
structure Dealing (ε β : Type) where
  takes : ε → Option β
  gives : ε → Option β

namespace Dealing

variable {ε β : Type} [DecidableEq β] (d : Dealing ε β)

def heldAfter (held : List β) (e : ε) : List β :=
  match d.takes e, d.gives e with
  | some h, _ => h :: held
  | none, some h => held.erase h
  | none, none => held

def heldBy (log : List ε) : List β := log.foldl d.heldAfter []

/-- Every entry gives back what is held before it. -/
def Sound (log : List ε) : Prop :=
  ∀ before e after, log = before ++ e :: after → ∀ h, d.gives e = some h → h ∈ d.heldBy before

/-- What an entry takes, exactly one later entry gives back. -/
def Repaid (log : List ε) : Prop :=
  ∀ before e after h, log = before ++ e :: after → d.takes e = some h →
    after.countP (fun later => d.gives later = some h) = 1

variable {d} {log : List ε} {e : ε}

theorem heldBy_append : d.heldBy (log ++ [e]) = d.heldAfter (d.heldBy log) e := by
  simp [heldBy]

theorem heldBy_takes {h : β} (hTakes : d.takes e = some h) :
    d.heldBy (log ++ [e]) = h :: d.heldBy log := by
  rw [heldBy_append, heldAfter, hTakes]

theorem heldBy_gives {h : β} (hTakes : d.takes e = none) (hGives : d.gives e = some h) :
    d.heldBy (log ++ [e]) = (d.heldBy log).erase h := by
  rw [heldBy_append, heldAfter, hTakes, hGives]

theorem heldBy_quiet (hTakes : d.takes e = none) (hGives : d.gives e = none) :
    d.heldBy (log ++ [e]) = d.heldBy log := by
  rw [heldBy_append, heldAfter, hTakes, hGives]

theorem sound_nil : d.Sound [] := fun before e after h => by
  have hLength := congrArg List.length h
  simp at hLength

theorem Sound.append (h : d.Sound log) (hGives : ∀ hold, d.gives e = some hold → hold ∈ d.heldBy log) :
    d.Sound (log ++ [e]) := by
  intro before e' after hSplit hold hHold
  rcases List.eq_nil_or_concat after with rfl | ⟨after', last, rfl⟩
  · obtain ⟨rfl, hLast⟩ := List.append_inj' hSplit rfl
    cases hLast
    exact hGives hold hHold
  · rw [List.concat_eq_append, ← List.cons_append, ← List.append_assoc] at hSplit
    obtain ⟨hInit, -⟩ := List.append_inj' hSplit rfl
    exact h before e' after' hInit hold hHold

/-- An entry that gives nothing back does no harm. -/
theorem Sound.append_quiet (h : d.Sound log) (hGives : d.gives e = none) : d.Sound (log ++ [e]) :=
  h.append fun hold hHold => by
    rw [hGives] at hHold
    cases hHold

theorem Repaid.of_none (h : ∀ e ∈ log, d.takes e = none) : d.Repaid log := by
  intro before e after hold hSplit hTakes
  rw [h e (by rw [hSplit]; simp)] at hTakes
  cases hTakes

/-- A thing that is taken and then given back. -/
theorem repaid_pair {e' : ε} {h : β} (hTakes : d.takes e = some h) (hGives : d.gives e' = some h)
    (hLast : d.takes e' = none) : d.Repaid [e, e'] := by
  intro before first after hold hSplit hHold
  match before, hSplit with
  | [], hSplit =>
    obtain ⟨rfl, rfl⟩ := List.cons.inj hSplit
    rw [hTakes] at hHold
    cases hHold
    simp [hGives]
  | [one], hSplit =>
    obtain ⟨-, hSplit⟩ := List.cons.inj hSplit
    obtain ⟨rfl, -⟩ := List.cons.inj hSplit
    rw [hLast] at hHold
    cases hHold
  | one :: two :: more, hSplit =>
    have hLength := congrArg List.length hSplit
    simp at hLength

end Dealing

end Xiu.ProofKit
