import Xiu.ProofKit.Action

/-! What an action that may fail leaves, from a given state: a condition on its result and the state
when it succeeds, and another on the state when it fails.  There is a rule for each way to build an
action. -/

namespace Xiu.ProofKit

variable {ε σ α β : Type}

/-- From `s`, the action leaves its result and a state of `Q`, or fails in a state of `E`. -/
def Leaves (E : σ → Prop) (Q : α → σ → Prop) (x : EStateM ε σ α) (s : σ) : Prop :=
  match x s with
  | .ok a s' => Q a s'
  | .error _ s' => E s'

variable {E : σ → Prop} {P Q : α → σ → Prop} {R : β → σ → Prop} {x : EStateM ε σ α} {s : σ}

theorem leaves_of_ok {a : α} {s' : σ} (h : x s = .ok a s') (hQ : Q a s') : Leaves E Q x s := by
  rw [Leaves, h]
  exact hQ

theorem leaves_of_error {e : ε} {s' : σ} (h : x s = .error e s') (hE : E s') : Leaves E Q x s := by
  rw [Leaves, h]
  exact hE

theorem Leaves.ok {a : α} {s' : σ} (h : Leaves E Q x s) (hOk : x s = .ok a s') : Q a s' := by
  rwa [Leaves, hOk] at h

theorem Leaves.error {e : ε} {s' : σ} (h : Leaves E Q x s) (hError : x s = .error e s') : E s' := by
  rwa [Leaves, hError] at h

theorem Leaves.bind {f : α → EStateM ε σ β} (h : Leaves E P x s)
    (hNext : ∀ a s', P a s' → Leaves E R (f a) s') : Leaves E R (x >>= f) s := by
  cases hx : x s with
  | ok a s' =>
    rw [Leaves, bind_of_ok hx]
    exact hNext a s' (h.ok hx)
  | error e s' => exact leaves_of_error (bind_of_error hx) (h.error hx)

theorem Leaves.mono {E' : σ → Prop} (h : Leaves E P x s) (hE : ∀ s', E s' → E' s')
    (hQ : ∀ a s', P a s' → Q a s') : Leaves E' Q x s := by
  cases hx : x s with
  | ok a s' => exact leaves_of_ok hx (hQ a s' (h.ok hx))
  | error e s' => exact leaves_of_error hx (hE s' (h.error hx))

/-- Both ways to end leave a state of one condition. -/
theorem Leaves.stateOf {I : σ → Prop} (h : Leaves I (fun _ => I) x s) : I (stateOf (x s)) := by
  cases hx : x s with
  | ok a s' => exact h.ok hx
  | error e s' => exact h.error hx

theorem leaves_ite {c : Prop} [Decidable c] {y : EStateM ε σ α} (hThen : c → Leaves E Q x s)
    (hElse : ¬c → Leaves E Q y s) : Leaves E Q (if c then x else y) s := by
  split
  · exact hThen ‹_›
  · exact hElse ‹_›

end Xiu.ProofKit
