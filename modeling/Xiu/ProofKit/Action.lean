import Mathlib.Tactic.Common

/-! Actions on a state that may fail and keep the state when they do: how a bind of two actions
runs, forwards from a known first result and backwards from a known final one. -/

namespace Xiu.ProofKit

variable {ε σ α β : Type} {x : EStateM ε σ α} {f : α → EStateM ε σ β} {s s' : σ}

theorem bind_of_ok {a : α} (h : x s = .ok a s') : (x >>= f) s = f a s' := by
  simp only [bind, EStateM.bind, h]

theorem bind_of_error {e : ε} (h : x s = .error e s') : (x >>= f) s = .error e s' := by
  simp only [bind, EStateM.bind, h]

theorem bind_eq_ok {b : β} (h : (x >>= f) s = .ok b s') :
    ∃ a s1, x s = .ok a s1 ∧ f a s1 = .ok b s' := by
  cases hx : x s with
  | ok a s1 => exact ⟨a, s1, rfl, by rwa [bind_of_ok hx] at h⟩
  | error e s1 => rw [bind_of_error hx] at h; cases h

theorem bind_eq_error {e : ε} (h : (x >>= f) s = .error e s') :
    x s = .error e s' ∨ ∃ a s1, x s = .ok a s1 ∧ f a s1 = .error e s' := by
  cases hx : x s with
  | ok a s1 => exact .inr ⟨a, s1, rfl, by rwa [bind_of_ok hx] at h⟩
  | error e' s1 => rw [bind_of_error hx] at h; exact .inl (by cases h; rfl)

@[simp] theorem bind_get {f : σ → EStateM ε σ β} : ((get : EStateM ε σ σ) >>= f) s = f s s := rfl

@[simp] theorem bind_modify {g : σ → σ} {f : Unit → EStateM ε σ β} :
    ((modify g : EStateM ε σ Unit) >>= f) s = f () (g s) := rfl

@[simp] theorem bind_set {f : PUnit → EStateM ε σ β} :
    ((set s' : EStateM ε σ PUnit) >>= f) s = f ⟨⟩ s' := rfl

@[simp] theorem pure_apply {a : α} : (pure a : EStateM ε σ α) s = .ok a s := rfl

@[simp] theorem throw_apply {e : ε} : (throw e : EStateM ε σ α) s = .error e s := rfl

@[simp] theorem modify_apply {g : σ → σ} : (modify g : EStateM ε σ Unit) s = .ok () (g s) := rfl

@[simp] theorem set_apply : (set s' : EStateM ε σ PUnit) s = .ok ⟨⟩ s' := rfl

/-- The action fails with this error. -/
def Fails (e : ε) (x : EStateM ε σ α) (s : σ) : Prop := ∃ s', x s = .error e s'

theorem fails_bind {e : ε} :
    Fails e (x >>= f) s ↔ Fails e x s ∨ ∃ a s1, x s = .ok a s1 ∧ Fails e (f a) s1 := by
  constructor
  · rintro ⟨s', h⟩
    rcases bind_eq_error h with hx | ⟨a, s1, hx, hf⟩
    · exact .inl ⟨s', hx⟩
    · exact .inr ⟨a, s1, hx, s', hf⟩
  · rintro (⟨s', hx⟩ | ⟨a, s1, hx, s', hf⟩)
    · exact ⟨s', bind_of_error hx⟩
    · exact ⟨s', (bind_of_ok hx).trans hf⟩

/-- When what follows does not fail, the first action decides. -/
theorem fails_bind_left {e : ε} (h : ∀ a s1, ¬Fails e (f a) s1) :
    Fails e (x >>= f) s ↔ Fails e x s := by
  rw [fails_bind]
  constructor
  · rintro (hx | ⟨a, s1, -, hf⟩)
    · exact hx
    · exact absurd hf (h a s1)
  · exact .inl

/-- When the first action does not fail, what follows decides. -/
theorem fails_bind_right {e : ε} (h : ¬Fails e x s) :
    Fails e (x >>= f) s ↔ ∃ a s1, x s = .ok a s1 ∧ Fails e (f a) s1 := by
  rw [fails_bind, or_iff_right h]

theorem fails_modify_bind {e : ε} {g : σ → σ} {f : Unit → EStateM ε σ β} :
    Fails e ((modify g : EStateM ε σ Unit) >>= f) s ↔ Fails e (f ()) (g s) := Iff.rfl

theorem fails_get_bind {e : ε} {f : σ → EStateM ε σ β} :
    Fails e ((get : EStateM ε σ σ) >>= f) s ↔ Fails e (f s) s := Iff.rfl

theorem not_fails_ok {e : ε} {a : α} (h : x s = .ok a s') : ¬Fails e x s := by
  rintro ⟨s1, hFails⟩
  rw [h] at hFails
  cases hFails

theorem not_fails_pure {e : ε} (a : α) : ¬Fails e (pure a : EStateM ε σ α) s := not_fails_ok rfl

theorem not_fails_set {e : ε} (s1 : σ) : ¬Fails e (set s1 : EStateM ε σ PUnit) s := not_fails_ok rfl

theorem not_fails_modify {e : ε} (g : σ → σ) : ¬Fails e (modify g : EStateM ε σ Unit) s :=
  not_fails_ok rfl

/-- An action on a part of the state. -/
def onPart {τ : Type} (part : σ → τ) (put : σ → τ → σ) (x : EStateM ε τ α) : EStateM ε σ α := fun s =>
  match x (part s) with
  | .ok a t => .ok a (put s t)
  | .error e t => .error e (put s t)

theorem fails_onPart {τ : Type} {part : σ → τ} {put : σ → τ → σ} {x : EStateM ε τ α} {e : ε} :
    Fails e (onPart part put x) s ↔ Fails e x (part s) := by
  simp only [Fails, onPart]
  cases x (part s) with
  | ok a t => exact iff_of_false (fun ⟨s', h⟩ => nomatch h) fun ⟨s', h⟩ => nomatch h
  | error e' t =>
    constructor
    · rintro ⟨s', h⟩
      cases h
      exact ⟨t, rfl⟩
    · rintro ⟨s', h⟩
      cases h
      exact ⟨put s t, rfl⟩

/-- Inputs are handled one after the other. -/
def handleAll {ι : Type} (handle : ι → EStateM ε σ Unit) : List ι → EStateM ε σ Unit
  | [] => pure ()
  | i :: rest => do
    handle i
    handleAll handle rest

/-- A handler that fails on some inputs only, whatever the state, gets to the end of a list when none
of them is in it. -/
theorem handleAll_ok_iff {ι : Type} {handle : ι → EStateM ε σ Unit} {calm : ι → Prop}
    (h : ∀ i s, (∃ s', handle i s = .ok () s') ↔ calm i) {inputs : List ι} :
    (∃ s', handleAll handle inputs s = .ok () s') ↔ ∀ i ∈ inputs, calm i := by
  induction inputs generalizing s with
  | nil => exact iff_of_true ⟨s, rfl⟩ fun i hMem => nomatch hMem
  | cons i rest ih =>
    rw [List.forall_mem_cons, ← h i s]
    constructor
    · rintro ⟨s', hAll⟩
      obtain ⟨u, s1, hFirst, hRest⟩ := bind_eq_ok hAll
      exact ⟨⟨s1, hFirst⟩, ih.mp ⟨s', hRest⟩⟩
    · rintro ⟨⟨s1, hFirst⟩, hRest⟩
      obtain ⟨s', hAll⟩ := (ih (s := s1)).mpr hRest
      exact ⟨s', (bind_of_ok hFirst).trans hAll⟩

theorem handleAll_append {ι : Type} (handle : ι → EStateM ε σ Unit) (first rest : List ι) :
    handleAll handle (first ++ rest) =
      (handleAll handle first >>= fun _ => handleAll handle rest) := by
  induction first with
  | nil => exact (pure_bind _ _).symm
  | cons i first ih =>
    show (handle i >>= fun _ => handleAll handle (first ++ rest)) = _
    rw [ih, ← bind_assoc]
    rfl

theorem handleAll_singleton {ι : Type} (handle : ι → EStateM ε σ Unit) (i : ι) :
    handleAll handle [i] = handle i := bind_pure_unit

/-- The state that an action leaves, whether it fails or not. -/
def stateOf : EStateM.Result ε σ α → σ
  | .ok _ s => s
  | .error _ s => s

@[simp] theorem stateOf_bind_pure {g : α → β} :
    stateOf ((x >>= fun a => pure (g a)) s) = stateOf (x s) := by
  cases h : x s with
  | ok a s1 => rw [bind_of_ok h]; rfl
  | error e s1 => rw [bind_of_error h]; rfl

/-- A bind leaves related states when its two actions do. -/
theorem stateOf_bind {R : σ → σ → Prop} (trans : ∀ {a b c}, R a b → R b c → R a c)
    (hx : R s (stateOf (x s))) (hf : ∀ a s1, R s1 (stateOf (f a s1))) :
    R s (stateOf ((x >>= f) s)) := by
  cases h : x s with
  | ok a s1 =>
    rw [h] at hx
    rw [bind_of_ok h]
    exact trans hx (hf a s1)
  | error e s1 =>
    rw [h] at hx
    rw [bind_of_error h]
    exact hx

end Xiu.ProofKit
