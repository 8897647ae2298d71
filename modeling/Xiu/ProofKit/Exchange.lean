import Mathlib.Order.Monotone.Basic
import Xiu.ProofKit.System

/-! Two parties that talk over a connection which keeps what each of them says in order.  They take turns in
any order, and each hears what the other has said when it comes to it.  When each party follows its script as
long as it hears the other's, both do: what one has said is bounded by what it has heard, so that neither
hears anything that it could not have been told yet. -/

namespace Xiu.ProofKit

variable {σ τ α β γ δ μ ν : Type}

/-- A party with moves of its own, what it does with a message that it hears, and what it has said. -/
structure Party (σ α β μ ν : Type) where
  init : σ → Prop
  act : σ → α → σ → Prop
  hear : σ → β → μ → σ → Prop
  said : σ → List ν

/-- Two parties, and how many messages of the other each has heard. -/
structure Talk (σ τ : Type) where
  left : σ
  right : τ
  heardByLeft : Nat
  heardByRight : Nat

inductive TalkMove (α β γ δ : Type) where
  | leftActs (a : α)
  | leftHears (b : β)
  | rightActs (a : γ)
  | rightHears (b : δ)

/-- The two parties together. -/
def exchange (p : Party σ α β μ ν) (q : Party τ γ δ ν μ) : System (Talk σ τ) (TalkMove α β γ δ) where
  init c := p.init c.left ∧ q.init c.right ∧ c.heardByLeft = 0 ∧ c.heardByRight = 0
  step c move c' :=
    match move with
    | .leftActs a => ∃ s, p.act c.left a s ∧ c' = { c with left := s }
    | .leftHears b => ∃ m s, (q.said c.right)[c.heardByLeft]? = some m ∧ p.hear c.left b m s ∧
        c' = { c with left := s, heardByLeft := c.heardByLeft + 1 }
    | .rightActs a => ∃ t, q.act c.right a t ∧ c' = { c with right := t }
    | .rightHears b => ∃ m t, (p.said c.left)[c.heardByRight]? = some m ∧ q.hear c.right b m t ∧
        c' = { c with right := t, heardByRight := c.heardByRight + 1 }

/-- A party that follows a script while it hears the other's: what it knows of its state by the number of
messages that it has heard, how much it may have said by then, and, of a message that it hears, that the other
may have said it by then. -/
structure Party.Follows (p : Party σ α β μ ν) (own : List ν) (other : List μ) (due allowed : Nat → Nat)
    (knows : Nat → σ → Prop) : Prop where
  init : ∀ s, p.init s → knows 0 s
  said : ∀ k s, knows k s → p.said s <+: own ∧ (p.said s).length ≤ due k
  act : ∀ k s a s', knows k s → p.act s a s' → knows k s' ∧ p.said s <+: p.said s'
  hear : ∀ k s b m s', knows k s → k < allowed (p.said s).length → other[k]? = some m → p.hear s b m s' →
    knows (k + 1) s' ∧ p.said s <+: p.said s'

/-- What is known of both parties at any time. -/
structure Talk.Together (p : Party σ α β μ ν) (q : Party τ γ δ ν μ) (knows : Nat → σ → Prop)
    (knows' : Nat → τ → Prop) (c : Talk σ τ) : Prop where
  left : knows c.heardByLeft c.left
  right : knows' c.heardByRight c.right
  leftHeard : c.heardByLeft ≤ (q.said c.right).length
  rightHeard : c.heardByRight ≤ (p.said c.left).length

section Together

variable {p : Party σ α β μ ν} {q : Party τ γ δ ν μ} {own : List ν} {other : List μ} {due due' : Nat → Nat}
  {knows : Nat → σ → Prop} {knows' : Nat → τ → Prop}

/-- A message that has been said stands in the script. -/
theorem said_in_script {said script : List μ} {k : Nat} {m : μ} (hPrefix : said <+: script)
    (hSaid : said[k]? = some m) : script[k]? = some m ∧ k < said.length := by
  obtain ⟨hLess, -⟩ := List.getElem?_eq_some_iff.mp hSaid
  obtain ⟨rest, rfl⟩ := hPrefix
  exact ⟨by rw [List.getElem?_append_left hLess, hSaid], hLess⟩

/-- Two parties that follow their scripts by what they hear follow them together, in whatever order they take
their turns. -/
theorem together_of_follows (hp : p.Follows own other due due' knows) (hq : q.Follows other own due' due knows')
    (hDue : Monotone due) (hDue' : Monotone due') {c : Talk σ τ} (h : (exchange p q).Reached c) :
    c.Together p q knows knows' := by
  refine h.invariant (I := Talk.Together p q knows knows') ?_ ?_
  · rintro c ⟨hLeft, hRight, hZero, hZero'⟩
    refine ⟨?_, ?_, by rw [hZero]; exact Nat.zero_le _, by rw [hZero']; exact Nat.zero_le _⟩
    · rw [hZero]
      exact hp.init _ hLeft
    · rw [hZero']
      exact hq.init _ hRight
  rintro c move c' hTogether hStep
  cases move with
  | leftActs a =>
    obtain ⟨s, hAct, rfl⟩ := hStep
    obtain ⟨hKnows, hGrows⟩ := hp.act _ _ _ _ hTogether.left hAct
    exact ⟨hKnows, hTogether.right, hTogether.leftHeard, hTogether.rightHeard.trans hGrows.length_le⟩
  | leftHears b =>
    obtain ⟨m, s, hSaid, hHear, rfl⟩ := hStep
    obtain ⟨hScript, hBound⟩ := hq.said _ _ hTogether.right
    obtain ⟨hNext, hLess⟩ := said_in_script hScript hSaid
    have hAllowed : c.heardByLeft < due' (p.said c.left).length :=
      Nat.lt_of_lt_of_le hLess (hBound.trans (hDue' hTogether.rightHeard))
    obtain ⟨hKnows, hGrows⟩ := hp.hear _ _ _ _ _ hTogether.left hAllowed hNext hHear
    exact ⟨hKnows, hTogether.right, hLess, hTogether.rightHeard.trans hGrows.length_le⟩
  | rightActs a =>
    obtain ⟨t, hAct, rfl⟩ := hStep
    obtain ⟨hKnows, hGrows⟩ := hq.act _ _ _ _ hTogether.right hAct
    exact ⟨hTogether.left, hKnows, hTogether.leftHeard.trans hGrows.length_le, hTogether.rightHeard⟩
  | rightHears b =>
    obtain ⟨m, t, hSaid, hHear, rfl⟩ := hStep
    obtain ⟨hScript, hBound⟩ := hp.said _ _ hTogether.left
    obtain ⟨hNext, hLess⟩ := said_in_script hScript hSaid
    have hAllowed : c.heardByRight < due (q.said c.right).length :=
      Nat.lt_of_lt_of_le hLess (hBound.trans (hDue hTogether.leftHeard))
    obtain ⟨hKnows, hGrows⟩ := hq.hear _ _ _ _ _ hTogether.right hAllowed hNext hHear
    exact ⟨hTogether.left, hKnows, hTogether.leftHeard.trans hGrows.length_le, hLess⟩

end Together

end Xiu.ProofKit
