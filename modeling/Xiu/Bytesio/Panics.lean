import Xiu.Bytesio.Reading
import Xiu.ProofKit.Loop

/-! Code that reads and never panics: every read only ever fails with an error that is returned, and
a bind, a loop or a nested reader of such actions is one.  And code that keeps an invariant of the
party that reads, whether it fails or not. -/

namespace Xiu.Bytesio

open ProofKit Bytesio.Read

variable {σ τ α β : Type}

/-- A run ends in a panic. -/
def Panics (r : EStateM.Result Fault σ α) : Prop := ∃ s, r = .error .panic s

theorem not_panics_ok {a : α} {s : σ} : ¬Panics (.ok a s) := nofun

theorem not_panics_error {e : BytesReadErrorValue} {s : σ} :
    ¬Panics (.error (.bytesReadError e) s : EStateM.Result Fault σ α) := nofun

/-- Never ends in a panic. -/
def Calm (x : EStateM Fault σ α) : Prop := ∀ s, ¬Panics (x s)

theorem Calm.pure (a : α) : Calm (pure a : EStateM Fault σ α) := fun _ => not_panics_ok

theorem Calm.modify (f : σ → σ) : Calm (modify f : EStateM Fault σ Unit) := fun _ => not_panics_ok

theorem Calm.get : Calm (get : EStateM Fault σ σ) := fun _ => not_panics_ok

theorem Calm.bind {x : EStateM Fault σ α} {f : α → EStateM Fault σ β} (hx : Calm x)
    (hf : ∀ a, Calm (f a)) : Calm (x >>= f) := by
  rintro s ⟨s', h⟩
  rcases bind_eq_error h with h | ⟨a, s1, _, h⟩
  · exact hx s ⟨s', h⟩
  · exact hf a s1 ⟨s', h⟩

theorem Calm.ite {p : Prop} [Decidable p] {x y : EStateM Fault σ α} (hx : Calm x) (hy : Calm y) :
    Calm (if p then x else y) := by
  split
  · exact hx
  · exact hy

theorem Calm.loopM {γ : Type} {turn : γ → EStateM Fault σ (Turn γ β)} {measure : σ → Nat}
    {decreases : ∀ a a' s s', turn a s = .ok (.again a') s' → measure s' < measure s}
    (h : ∀ a, Calm (turn a)) (a : γ) : Calm (loopM turn measure decreases a) := by
  rintro s ⟨s', hLoop⟩
  obtain ⟨a1, s1, hTurn⟩ := loopM_eq_error hLoop
  exact h a1 s1 ⟨s', hTurn⟩

namespace Read

theorem calm_read (f : BytesReader → Except BytesReadErrorValue (α × BytesReader)) :
    Calm (read f : Read τ α) := by
  rintro s ⟨s', h⟩
  unfold read at h
  split at h
  · cases h
  · cases h

theorem calm_readU8 : Calm (readU8 : Read τ UInt8) := calm_read _

theorem calm_readU16 (order : ByteOrder) : Calm (readU16 order : Read τ UInt16) := calm_read _

theorem calm_readBytes (n : Nat) : Calm (readBytes n : Read τ (List UInt8)) := calm_read _

theorem calm_extractRemainingBytes : Calm (extractRemainingBytes : Read τ (List UInt8)) :=
  calm_read _

theorem calm_len : Calm (len : Read τ Nat) := fun _ => not_panics_ok

theorem calm_owner : Calm (owner : Read τ τ) := fun _ => not_panics_ok

theorem calm_act (f : τ → τ) : Calm (act f) := Calm.modify _

theorem calm_onOwner {x : EStateM Fault τ α} (h : Calm x) : Calm (onOwner x) := by
  rintro s ⟨s', hRun⟩
  unfold onOwner at hRun
  split at hRun
  · cases hRun
  · rename_i hError
    obtain ⟨rfl, _⟩ := EStateM.Result.error.inj hRun
    exact h _ ⟨_, hError⟩

theorem panics_onOwner {x : EStateM Fault τ α} {s : Reading τ} :
    Panics (onOwner x s) ↔ Panics (x s.owner) := by
  constructor
  · rintro ⟨s', hRun⟩
    unfold onOwner at hRun
    split at hRun
    · cases hRun
    · rename_i hError
      obtain ⟨rfl, _⟩ := EStateM.Result.error.inj hRun
      exact ⟨_, hError⟩
  · rintro ⟨it, hRun⟩
    exact ⟨_, onOwner_error hRun⟩

theorem panics_readOver {x : Read τ α} {buffer : List UInt8} {it : τ} :
    Panics (readOver buffer x it) ↔ Panics (x ⟨it, ⟨buffer⟩⟩) := by
  constructor
  · rintro ⟨s', hRun⟩
    unfold readOver at hRun
    split at hRun
    · cases hRun
    · rename_i hError
      obtain ⟨rfl, _⟩ := EStateM.Result.error.inj hRun
      exact ⟨_, hError⟩
  · rintro ⟨s, hRun⟩
    exact ⟨_, readOver_error hRun⟩

theorem calm_readOver {x : Read τ α} (h : Calm x) (buffer : List UInt8) : Calm (readOver buffer x) :=
  fun _ hRun => h _ (panics_readOver.mp hRun)

/-! ### Invariants of the party -/

/-- Keeps an invariant of the party. -/
def Keeps (I : τ → Prop) (x : Read τ α) : Prop := ∀ s, I s.owner → I (stateOf (x s)).owner

variable {I : τ → Prop}

theorem Keeps.pure (a : α) : Keeps I (pure a) := fun _ h => h

theorem Keeps.throw (e : Fault) : Keeps I (throw e : Read τ α) := fun _ h => h

theorem Keeps.bind {x : Read τ α} {f : α → Read τ β} (hx : Keeps I x) (hf : ∀ a, Keeps I (f a)) :
    Keeps I (x >>= f) := by
  intro s h
  have hFirst := hx s h
  cases hRun : x s with
  | ok a s1 =>
    rw [hRun] at hFirst
    rw [bind_of_ok hRun]
    exact hf a s1 hFirst
  | error e s1 =>
    rw [hRun] at hFirst
    rwa [bind_of_error hRun]

theorem Keeps.ite {p : Prop} [Decidable p] {x y : Read τ α} (hx : Keeps I x) (hy : Keeps I y) :
    Keeps I (if p then x else y) := by
  split
  · exact hx
  · exact hy

theorem keeps_read (f : BytesReader → Except BytesReadErrorValue (α × BytesReader)) :
    Keeps I (read f : Read τ α) := by
  intro s h
  unfold read
  split
  · exact h
  · exact h

theorem keeps_getAt (index : Nat) : Keeps I (getAt index : Read τ UInt8) := by
  intro s h
  unfold getAt
  split
  · exact h
  · exact h

theorem keeps_len : Keeps I (len : Read τ Nat) := fun _ h => h

theorem keeps_owner : Keeps I (owner : Read τ τ) := fun _ h => h

theorem keeps_sub (n m : Nat) : Keeps I (sub n m : Read τ Nat) := .ite (.throw _) (.pure _)

theorem keeps_checkedU16 (n : Nat) : Keeps I (checkedU16 n : Read τ UInt16) :=
  .ite (.pure _) (.throw _)

theorem keeps_checkedU32 (n : Nat) : Keeps I (checkedU32 n : Read τ UInt32) :=
  .ite (.pure _) (.throw _)

theorem keeps_act {f : τ → τ} (h : ∀ it, I it → I (f it)) : Keeps I (act f) := fun s hs =>
  h s.owner hs

theorem keeps_onOwner_readOver {x : Read τ α} (h : Keeps I x) (buffer : List UInt8) :
    Keeps I (onOwner (readOver buffer x)) := by
  rintro ⟨it, reader⟩ hIt
  have hRun := h ⟨it, ⟨buffer⟩⟩ hIt
  cases hx : x ⟨it, ⟨buffer⟩⟩ with
  | ok a s =>
    rw [hx] at hRun
    rw [onOwner_ok (readOver_ok hx)]
    exact hRun
  | error e s =>
    rw [hx] at hRun
    rw [onOwner_error (readOver_error hx)]
    exact hRun

end Read

end Xiu.Bytesio
