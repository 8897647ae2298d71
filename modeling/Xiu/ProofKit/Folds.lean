import Mathlib.Data.List.Basic
import Mathlib.Data.List.Forall2

/-! Folds whose steps may give nothing.  A fold gives a result if and only if each of its steps does from the
state before it; what each step keeps, the fold keeps; and a view of the state that each step moves in a way
of its own is moved so by the fold. -/

namespace Xiu.ProofKit

/-- Two folds whose steps keep a relation between their states. -/
theorem foldlM_relates {α β γ : Type} {f : β → α → Option β} {g : γ → α → γ} {R : γ → β → Prop}
    {as : List α} (hStep : ∀ c b, ∀ a ∈ as, ∀ b', R c b → f b a = some b' → R (g c a) b') {c : γ} {b b' : β}
    (h : R c b) (hRun : as.foldlM f b = some b') : R (as.foldl g c) b' := by
  induction as generalizing b c with
  | nil =>
    cases hRun
    exact h
  | cons a as ih =>
    rw [List.foldlM_cons] at hRun
    obtain ⟨next, hNext, hRest⟩ := Option.bind_eq_some_iff.mp hRun
    exact ih (fun c b a' hMem => hStep c b a' (List.mem_cons_of_mem a hMem))
      (hStep c b a List.mem_cons_self next h hNext) hRest

/-- What each step keeps, the fold keeps. -/
theorem foldlM_keeps {α β : Type} {f : β → α → Option β} {Keeps : β → Prop} {as : List α}
    (hStep : ∀ a ∈ as, ∀ b b', Keeps b → f b a = some b' → Keeps b') {b b' : β} (h : Keeps b)
    (hRun : as.foldlM f b = some b') : Keeps b' :=
  foldlM_relates (R := fun (_ : Unit) b => Keeps b) (g := fun _ _ => ()) (c := ())
    (fun _ b a hMem b' => hStep a hMem b b') h hRun

/-! ### Rows of related elements -/

theorem forall₂_concat {α β : Type} {R : α → β → Prop} {as : List α} {bs : List β} {b : β}
    (h : List.Forall₂ R as (bs ++ [b])) :
    ∃ init a, as = init ++ [a] ∧ List.Forall₂ R init bs ∧ R a b := by
  rw [← List.forall₂_reverse_iff, List.reverse_concat, List.forall₂_cons_right_iff] at h
  obtain ⟨a, rest, hLast, hRest, hReverse⟩ := h
  refine ⟨rest.reverse, a, ?_, ?_, hLast⟩
  · rw [← List.reverse_cons, ← hReverse, List.reverse_reverse]
  · rwa [← List.forall₂_reverse_iff, List.reverse_reverse]

theorem forall₂_append_singleton {α β : Type} {R : α → β → Prop} {as : List α} {bs : List β} {a : α} {b : β}
    (h : List.Forall₂ R as bs) (hLast : R a b) : List.Forall₂ R (as ++ [a]) (bs ++ [b]) :=
  List.rel_append h (.cons hLast .nil)

theorem forall₂_trans {α β γ : Type} {R : α → β → Prop} {S : β → γ → Prop} {T : α → γ → Prop}
    (hTrans : ∀ a b c, R a b → S b c → T a c) {as : List α} {bs : List β} {cs : List γ}
    (h : List.Forall₂ R as bs) (h' : List.Forall₂ S bs cs) : List.Forall₂ T as cs := by
  induction h generalizing cs with
  | nil =>
    cases h'
    exact .nil
  | cons hHead _ ih =>
    cases h' with
    | cons hHead' hTail => exact .cons (hTrans _ _ _ hHead hHead') (ih hTail)

/-- What holds of the elements of one row holds of those of the other. -/
theorem forall₂_forall_iff {α β : Type} {R : α → β → Prop} {P : α → Prop} {Q : β → Prop} {as : List α}
    {bs : List β} (h : List.Forall₂ R as bs) (hIff : ∀ a, ∀ b ∈ bs, R a b → (P a ↔ Q b)) :
    (∀ a ∈ as, P a) ↔ ∀ b ∈ bs, Q b := by
  induction h with
  | nil => exact iff_of_true (List.forall_mem_nil _) (List.forall_mem_nil _)
  | cons hHead _ ih =>
    rw [List.forall_mem_cons, List.forall_mem_cons]
    exact and_congr (hIff _ _ List.mem_cons_self hHead)
      (ih fun a b hMem => hIff a b (List.mem_cons_of_mem _ hMem))

/-- Each element gives one that is related to it if and only if all of them do. -/
theorem mapM_related_iff {α : Type} {f : α → Option α} {R : α → α → Prop} (as : List α) :
    (∃ as', as.mapM f = some as' ∧ List.Forall₂ R as' as) ↔ ∀ a ∈ as, ∃ a', f a = some a' ∧ R a' a := by
  induction as with
  | nil => simp
  | cons a as ih =>
    rw [List.forall_mem_cons, ← ih, List.mapM_cons]
    constructor
    · rintro ⟨all, hAll, hRelated⟩
      obtain ⟨a', hFirst, hRest⟩ := Option.bind_eq_some_iff.mp hAll
      obtain ⟨as', hSome, hSame⟩ := Option.bind_eq_some_iff.mp hRest
      cases hSame
      cases hRelated with
      | cons hHead hTail => exact ⟨⟨a', hFirst, hHead⟩, as', hSome, hTail⟩
    · rintro ⟨⟨a', hFirst, hHead⟩, as', hSome, hTail⟩
      refine ⟨a' :: as', ?_, .cons hHead hTail⟩
      rw [hFirst, hSome]
      rfl

end Xiu.ProofKit
