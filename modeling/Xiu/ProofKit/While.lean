import Xiu.ProofKit.Loop

/-! Loops that need not terminate: what their runs end with, the rule by which an invariant and a
measure make them end, and the rule by which an invariant keeps them from ending. -/

namespace Xiu.ProofKit

variable {σ ρ : Type}

/-- The loop ends with a result, from a state. -/
inductive Ends (body : σ → Turn σ ρ) : σ → ρ → Prop
  | done {s : σ} {r : ρ} : body s = .done r → Ends body s r
  | again {s s' : σ} {r : ρ} : body s = .again s' → Ends body s' r → Ends body s r

namespace Ends

variable {body : σ → Turn σ ρ} {s : σ} {r r' : ρ}

/-- A loop has at most one result. -/
theorem unique (h : Ends body s r) (h' : Ends body s r') : r = r' := by
  induction h with
  | done hBody =>
    cases h' with
    | done hBody' => exact Turn.done.inj (hBody.symm.trans hBody')
    | again hBody' _ => cases hBody.symm.trans hBody'
  | again hBody _ ih =>
    cases h' with
    | done hBody' => cases hBody.symm.trans hBody'
    | again hBody' hRest =>
      obtain rfl := Turn.again.inj (hBody.symm.trans hBody')
      exact ih hRest

/-- What the last turn makes of an invariant holds of the result. -/
theorem spec {I : σ → Prop} {Q : ρ → Prop} (hAgain : ∀ s s', I s → body s = .again s' → I s')
    (hDone : ∀ s r, I s → body s = .done r → Q r) (h : Ends body s r) (hs : I s) : Q r := by
  induction h with
  | done hBody => exact hDone _ _ hs hBody
  | again hBody _ ih => exact ih (hAgain _ _ hs hBody)

/-- A loop ends when every turn keeps an invariant and lowers a measure. -/
theorem exists_of_measure {I : σ → Prop} (μ : σ → Nat)
    (hAgain : ∀ s s', I s → body s = .again s' → I s' ∧ μ s' < μ s) (hs : I s) :
    ∃ r, Ends body s r := by
  induction hn : μ s using Nat.strongRecOn generalizing s with
  | ind n ih =>
    subst hn
    cases hBody : body s with
    | done r => exact ⟨r, .done hBody⟩
    | again s' =>
      obtain ⟨hs', hLess⟩ := hAgain s s' hs hBody
      obtain ⟨r, hEnds⟩ := ih _ hLess hs' rfl
      exact ⟨r, .again hBody hEnds⟩

/-- A loop does not end when an invariant leaves it no last turn. -/
theorem not_of_invariant {I : σ → Prop} (hTurn : ∀ s, I s → ∃ s', body s = .again s' ∧ I s')
    (hs : I s) : ¬∃ r, Ends body s r := by
  rintro ⟨r, h⟩
  induction h with
  | done hBody =>
    obtain ⟨s', hAgain, -⟩ := hTurn _ hs
    cases hBody.symm.trans hAgain
  | again hBody _ ih =>
    obtain ⟨s', hAgain, hs'⟩ := hTurn _ hs
    obtain rfl := Turn.again.inj (hBody.symm.trans hAgain)
    exact ih hs'

end Ends

end Xiu.ProofKit
