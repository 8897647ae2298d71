import Xiu.ProofKit.Action

/-! Actions by how they move the state: a relation between the state before an action and the one that it
leaves, whether it fails or not. -/

namespace Xiu.ProofKit

variable {ε σ τ α β : Type} {R : σ → σ → Prop} {x : EStateM ε σ α} {f : α → EStateM ε σ β}

/-- The state that the action leaves is related to the one before. -/
def Moves (R : σ → σ → Prop) (x : EStateM ε σ α) : Prop := ∀ s, R s (stateOf (x s))

theorem Moves.bind (hTrans : ∀ {a b c}, R a b → R b c → R a c) (hx : Moves R x) (hf : ∀ a, Moves R (f a)) :
    Moves R (x >>= f) :=
  fun s => stateOf_bind hTrans (hx s) fun a s1 => hf a s1

/-- An action on a part of the state moves the whole as it moves the part. -/
theorem Moves.onPart {S : τ → τ → Prop} {part : σ → τ} {put : σ → τ → σ} {y : EStateM ε τ α}
    (hy : Moves S y) (hPut : ∀ s t, S (part s) t → R s (put s t)) : Moves R (onPart part put y) := by
  intro s
  have hPart := hy (part s)
  simp only [ProofKit.onPart]
  cases hResult : y (part s) with
  | ok a t =>
    rw [hResult] at hPart
    exact hPut s t hPart
  | error e t =>
    rw [hResult] at hPart
    exact hPut s t hPart

end Xiu.ProofKit
