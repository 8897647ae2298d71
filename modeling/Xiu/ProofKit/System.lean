import Mathlib.Tactic.Common

/-! Transition systems: a state that moves by labelled steps, its runs, the states that runs reach,
and the rule that an invariant of the initial states and of the steps holds in all of them.  A guard
restricts the runs to those whose steps all meet a condition on the state before the step. -/

namespace Xiu.ProofKit

structure System (σ α : Type) where
  init : σ → Prop
  step : σ → α → σ → Prop

namespace System

variable {σ α : Type} (m : System σ α)

/-- The runs of a system from a state, by the labels of their steps. -/
inductive Run : σ → List α → σ → Prop
  | nil (s : σ) : Run s [] s
  | cons {s s1 s' : σ} {a : α} {as : List α} : m.step s a s1 → Run s1 as s' → Run s (a :: as) s'

/-- The states that runs from an initial state reach. -/
def Reached (s : σ) : Prop := ∃ s0 as, m.init s0 ∧ m.Run s0 as s

/-- The system whose steps must meet a condition on their label and the state before them. -/
def guard (allowed : σ → α → Prop) : System σ α where
  init := m.init
  step s a s' := allowed s a ∧ m.step s a s'

variable {m}

theorem Run.append {s s1 s' : σ} {as bs : List α} (h : m.Run s as s1) (h' : m.Run s1 bs s') :
    m.Run s (as ++ bs) s' := by
  induction h with
  | nil s => exact h'
  | cons hStep _ ih => exact .cons hStep (ih h')

theorem Reached.run {s s' : σ} {as : List α} (h : m.Reached s) (hRun : m.Run s as s') :
    m.Reached s' := by
  obtain ⟨s0, bs, hInit, hFirst⟩ := h
  exact ⟨s0, bs ++ as, hInit, hFirst.append hRun⟩

theorem Reached.step {s s' : σ} {a : α} (h : m.Reached s) (hStep : m.step s a s') :
    m.Reached s' :=
  h.run (.cons hStep (.nil s'))

theorem Run.of_guard {allowed : σ → α → Prop} {s s' : σ} {as : List α}
    (h : (m.guard allowed).Run s as s') : m.Run s as s' := by
  induction h with
  | nil s => exact .nil s
  | cons hStep _ ih => exact .cons hStep.2 ih

theorem Reached.of_guard {allowed : σ → α → Prop} {s : σ} (h : (m.guard allowed).Reached s) :
    m.Reached s := by
  obtain ⟨s0, as, hInit, hRun⟩ := h
  exact ⟨s0, as, hInit, hRun.of_guard⟩

/-- What steps preserve, runs preserve. -/
theorem Run.preserves {I : σ → Prop} (hStep : ∀ s a s', I s → m.step s a s' → I s') {s s' : σ}
    {as : List α} (h : m.Run s as s') (hs : I s) : I s' := by
  induction h with
  | nil s => exact hs
  | cons hFirst _ ih => exact ih (hStep _ _ _ hs hFirst)

/-- What steps preserve of the labels so far and the state. -/
theorem Run.preserves_labels {I : List α → σ → Prop}
    (hStep : ∀ bs s a s', I bs s → m.step s a s' → I (bs ++ [a]) s') {s s' : σ} {as : List α}
    (h : m.Run s as s') {bs : List α} (hs : I bs s) : I (bs ++ as) s' := by
  induction h generalizing bs with
  | nil s => exact (List.append_nil bs).symm ▸ hs
  | cons hFirst _ ih =>
    rw [List.append_cons]
    exact ih (hStep _ _ _ _ hs hFirst)

/-- What holds initially and is preserved by steps holds in every state reached. -/
theorem Reached.invariant {I : σ → Prop} (hInit : ∀ s, m.init s → I s)
    (hStep : ∀ s a s', I s → m.step s a s' → I s') {s : σ} (h : m.Reached s) : I s := by
  obtain ⟨s0, as, hs0, hRun⟩ := h
  exact hRun.preserves hStep (hInit s0 hs0)

/-- The runs from an initial state are bounded, and where a run cannot go on the state is final. -/
structure Terminates (m : System σ α) (final : σ → Prop) : Prop where
  bounded : ∀ s0, m.init s0 → ∃ n, ∀ as s, m.Run s0 as s → as.length ≤ n
  final : ∀ s, m.Reached s → (∀ a s', ¬m.step s a s') → final s

/-- A run is no longer than a measure that its steps lower. -/
theorem Run.length_le {μ : σ → Nat} (hLess : ∀ s a s', m.step s a s' → μ s' < μ s) {s s' : σ}
    {as : List α} (h : m.Run s as s') : as.length + μ s' ≤ μ s := by
  induction h with
  | nil s => simp
  | cons hStep _ ih =>
    have hFirst := hLess _ _ _ hStep
    rw [List.length_cons]
    omega

theorem Terminates.of_measure {final : σ → Prop} (μ : σ → Nat)
    (hLess : ∀ s a s', m.step s a s' → μ s' < μ s)
    (hFinal : ∀ s, m.Reached s → ¬final s → ∃ a s', m.step s a s') : m.Terminates final := by
  refine ⟨fun s0 _ => ⟨μ s0, fun as s hRun => ?_⟩, fun s hs hStuck => ?_⟩
  · have hLength := hRun.length_le hLess
    omega
  · by_contra hNot
    obtain ⟨a, s', hStep⟩ := hFinal s hs hNot
    exact hStuck a s' hStep

/-- A system whose steps are enabled by a condition gets through a list of labels when each of them is
enabled in the states in which it comes. -/
theorem exists_run_iff {enabled : σ → α → Prop} (h : ∀ s a, (∃ s', m.step s a s') ↔ enabled s a)
    (hUnique : ∀ s a s1 s2, m.step s a s1 → m.step s a s2 → s1 = s2) {s : σ} {as : List α} :
    (∃ s', m.Run s as s') ↔
      ∀ before a after, as = before ++ a :: after → ∀ s1, m.Run s before s1 → enabled s1 a := by
  induction as generalizing s with
  | nil =>
    refine iff_of_true ⟨s, .nil s⟩ ?_
    intro before a after hSplit
    simp at hSplit
  | cons a as ih =>
    constructor
    · rintro ⟨s', hRun⟩ before b after hSplit s1 hBefore
      cases hRun with
      | cons hStep hRest =>
        cases hBefore with
        | nil =>
          cases hSplit
          exact (h s a).mp ⟨_, hStep⟩
        | cons hStep' hBefore =>
          cases hSplit
          rw [hUnique _ _ _ _ hStep' hStep] at hBefore
          exact ih.mp ⟨s', hRest⟩ _ _ _ rfl s1 hBefore
    · intro hAll
      obtain ⟨s1, hStep⟩ := (h s a).mpr (hAll [] a as rfl s (.nil s))
      obtain ⟨s', hRest⟩ := ih.mpr fun before b after hSplit s2 hBefore =>
        hAll (a :: before) b after (by rw [hSplit, List.cons_append]) s2 (.cons hStep hBefore)
      exact ⟨s', .cons hStep hRest⟩

end System

end Xiu.ProofKit
