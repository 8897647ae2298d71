import Mathlib.Logic.Relation
import Xiu.ProofKit.Action

/-! Loops that terminate by a measure.  A loop is a body that either goes on with a new state or
ends with a result, and a measure that each further turn decreases, so `Loop.run` is total and needs
no fuel.  Its rules are the unfolding of one turn, an induction over the turns, and the rule for an
invariant.  `loopM` is the loop whose body is an action on a state that may fail. -/

namespace Xiu.ProofKit

/-- One turn of a loop: go on with a state, or end with a result. -/
inductive Turn (σ ρ : Type) where
  | again (s : σ)
  | done (r : ρ)

/-- A loop body with a measure that every further turn decreases. -/
structure Loop (σ ρ : Type) where
  body : σ → Turn σ ρ
  measure : σ → Nat
  decreases : ∀ s s', body s = .again s' → measure s' < measure s

namespace Loop

variable {σ ρ : Type} (l : Loop σ ρ)

/-- At most `n` turns from a state of measure below `n`. -/
def go : (n : Nat) → (s : σ) → l.measure s < n → ρ
  | 0, _, h => absurd h (Nat.not_lt_zero _)
  | n + 1, s, h =>
    match hBody : l.body s with
    | .done r => r
    | .again s' => go n s' (by have := l.decreases s s' hBody; omega)

/-- The result of the loop from `s`. -/
def run (s : σ) : ρ := l.go (l.measure s + 1) s (Nat.lt_succ_self _)

theorem go_done {n : Nat} {s : σ} {h : l.measure s < n} {r : ρ} (hBody : l.body s = .done r) :
    l.go n s h = r := by
  cases n with
  | zero => exact absurd h (Nat.not_lt_zero _)
  | succ n =>
    unfold go
    split
    · rename_i r' hr
      rw [hBody] at hr
      exact (Turn.done.inj hr).symm
    · rename_i s' hs
      rw [hBody] at hs
      cases hs

theorem go_again {n : Nat} {s s' : σ} {h : l.measure s < n + 1} {k : l.measure s' < n}
    (hBody : l.body s = .again s') : l.go (n + 1) s h = l.go n s' k := by
  rw [go]
  split
  · rename_i r hr
    rw [hBody] at hr
    cases hr
  · rename_i s'' hs
    rw [hBody] at hs
    obtain rfl := Turn.again.inj hs
    rfl

/-- The number of turns allowed does not matter. -/
theorem go_eq {n m : Nat} {s : σ} (h : l.measure s < n) (h' : l.measure s < m) :
    l.go n s h = l.go m s h' := by
  induction n generalizing m s with
  | zero => exact absurd h (Nat.not_lt_zero _)
  | succ n ih =>
    cases m with
    | zero => exact absurd h' (Nat.not_lt_zero _)
    | succ m =>
      cases hBody : l.body s with
      | done r => rw [l.go_done hBody, l.go_done hBody]
      | again s' =>
        have hs := l.decreases s s' hBody
        rw [l.go_again (k := by omega) hBody, l.go_again (k := by omega) hBody]
        exact ih _ _

theorem run_done {s : σ} {r : ρ} (hBody : l.body s = .done r) : l.run s = r := l.go_done hBody

theorem run_again {s t : σ} (hBody : l.body s = .again t) : l.run s = l.run t := by
  have hs := l.decreases s t hBody
  exact (l.go_again (k := by omega) hBody).trans (l.go_eq _ _)

/-- Induction over the turns of a loop. -/
theorem induct {motive : σ → Prop}
    (h : ∀ s, (∀ s', l.body s = .again s' → motive s') → motive s) (s : σ) : motive s := by
  induction hn : l.measure s using Nat.strongRecOn generalizing s with
  | ind n ih =>
    subst hn
    exact h s fun s' hs => ih _ (l.decreases s s' hs) s' rfl

/-- An invariant of the body holds when the loop ends. -/
theorem run_spec {I : σ → Prop} {Q : ρ → Prop}
    (hAgain : ∀ s s', I s → l.body s = .again s' → I s')
    (hDone : ∀ s r, I s → l.body s = .done r → Q r) {s : σ} (hs : I s) : Q (l.run s) := by
  induction s using l.induct with
  | h s ih =>
    cases hBody : l.body s with
    | done r =>
      rw [l.run_done hBody]
      exact hDone s r hs hBody
    | again s' =>
      rw [l.run_again hBody]
      exact ih s' hBody (hAgain s s' hs hBody)

/-- The states that the loop passes through from a state, the state itself included. -/
def Passes : σ → σ → Prop := Relation.ReflTransGen fun s s' => l.body s = .again s'

/-- Every state that a loop passes through has its result. -/
theorem run_passes {s s' : σ} (h : l.Passes s s') : l.run s = l.run s' := by
  induction h with
  | refl => rfl
  | tail _ hBody ih => exact ih.trans (l.run_again hBody)

end Loop

/-! ### Loops of actions -/

section LoopM

variable {ε σ α β : Type} (turn : α → EStateM ε σ (Turn α β)) (measure : σ → Nat)
  (decreases : ∀ a a' s s', turn a s = .ok (.again a') s' → measure s' < measure s)

/-- The loop of an action with a loop variable: an error of the action ends it. -/
def loopOf : Loop (α × σ) (EStateM.Result ε σ β) where
  body := fun (a, s) =>
    match turn a s with
    | .ok (.again a') s' => .again (a', s')
    | .ok (.done b) s' => .done (.ok b s')
    | .error e s' => .done (.error e s')
  measure := fun (_, s) => measure s
  decreases := fun (a, s) (a', s') h => by
    dsimp only at h ⊢
    split at h
    · rename_i hTurn
      cases h
      exact decreases _ _ _ _ hTurn
    · cases h
    · cases h

/-- Repeats an action until it ends the loop or fails. -/
def loopM (a : α) : EStateM ε σ β := fun s => (loopOf turn measure decreases).run (a, s)

include decreases in
/-- Induction over the turns of `loopM`. -/
theorem loopM_induct {motive : α → σ → Prop}
    (again : ∀ a s a' s', turn a s = .ok (.again a') s' → motive a' s' → motive a s)
    (done : ∀ a s b s', turn a s = .ok (.done b) s' → motive a s)
    (error : ∀ a s e s', turn a s = .error e s' → motive a s) (a : α) (s : σ) : motive a s := by
  have key : ∀ p : α × σ, motive p.1 p.2 := by
    refine (loopOf turn measure decreases).induct fun p ih => ?_
    obtain ⟨a, s⟩ := p
    cases h : turn a s with
    | ok r s' =>
      cases r with
      | again a' => exact again a s a' s' h (ih (a', s') (by simp only [loopOf, h]))
      | done b => exact done a s b s' h
    | error e s' => exact error a s e s' h
  exact key (a, s)

variable {turn measure decreases} {a a' : α} {s s' : σ}

theorem loopM_again (h : turn a s = .ok (.again a') s') :
    loopM turn measure decreases a s = loopM turn measure decreases a' s' :=
  Loop.run_again _ (by simp only [loopOf, h])

theorem loopM_done {b : β} (h : turn a s = .ok (.done b) s') :
    loopM turn measure decreases a s = .ok b s' :=
  Loop.run_done _ (by simp only [loopOf, h])

theorem loopM_error {e : ε} (h : turn a s = .error e s') :
    loopM turn measure decreases a s = .error e s' :=
  Loop.run_done _ (by simp only [loopOf, h])

/-- An error of a loop is an error of one of its turns. -/
theorem loopM_eq_error {e : ε} (h : loopM turn measure decreases a s = .error e s') :
    ∃ a1 s1, turn a1 s1 = .error e s' := by
  induction a, s using loopM_induct turn measure decreases with
  | again a s a' s1 hTurn ih => exact ih (loopM_again hTurn ▸ h)
  | done a s b s1 hTurn => exact nomatch (loopM_done hTurn).symm.trans h
  | error a s e' s1 hTurn =>
    obtain ⟨rfl, rfl⟩ := EStateM.Result.error.inj ((loopM_error hTurn).symm.trans h)
    exact ⟨a, s, hTurn⟩

/-- What each turn keeps holds of the result of a loop that does not fail. -/
theorem loopM_ok_rule {I : α → σ → Prop} {Q : β → σ → Prop}
    (hTurn : ∀ a s t s', I a s → turn a s = .ok t s' →
      match t with
      | .again a' => I a' s'
      | .done b => Q b s')
    {b : β} (hStart : I a s) (h : loopM turn measure decreases a s = .ok b s') : Q b s' := by
  induction a, s using loopM_induct turn measure decreases with
  | again a s a' s1 hAgain ih =>
    rw [loopM_again hAgain] at h
    exact ih (hTurn a s _ s1 hStart hAgain) h
  | done a s b' s1 hDone =>
    rw [loopM_done hDone] at h
    obtain ⟨rfl, rfl⟩ := EStateM.Result.ok.inj h
    exact hTurn a s _ _ hStart hDone
  | error a s e s1 hError =>
    rw [loopM_error hError] at h
    cases h

/-- A loop leaves a related state when each of its turns does. -/
theorem stateOf_loopM {R : σ → σ → Prop} (trans : ∀ {a b c}, R a b → R b c → R a c)
    (hTurn : ∀ a s, R s (stateOf (turn a s))) (a : α) (s : σ) :
    R s (stateOf (loopM turn measure decreases a s)) := by
  induction a, s using loopM_induct turn measure decreases with
  | again a s a' s' h ih =>
    have hFirst := hTurn a s
    rw [h] at hFirst
    rw [loopM_again h]
    exact trans hFirst ih
  | done a s b s' h =>
    have hLast := hTurn a s
    rw [h] at hLast
    rwa [loopM_done h]
  | error a s e s' h =>
    have hLast := hTurn a s
    rw [h] at hLast
    rwa [loopM_error h]

end LoopM

end Xiu.ProofKit
