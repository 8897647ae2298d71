import Xiu.ProofKit.Resume

/-! Paths of a pump: what it puts out between two states, when every state on the way has a property.
Where the property is one that a pump keeps when some of its input is taken away, and in which it can be
resumed, a path over the whole input says what the pump does with any pieces of it. -/

namespace Xiu.ProofKit.Pump

variable {σ ω κ δ : Type} {p : Pump σ ω κ} {P : σ → Prop} {s s' s1 : σ}

variable (p P) in
/-- The pump goes from a state to another, through states with the property, and puts out something. -/
inductive Path : σ → List ω → σ → Prop
  | refl (s : σ) : Path s [] s
  | step {s s1 s' : σ} {out outs : List ω} (hState : P s) (hStep : p.step s = .goes out s1)
    (rest : Path s1 outs s') : Path s (out ++ outs) s'

theorem Path.single {out : List ω} (hState : P s) (hStep : p.step s = .goes out s') :
    p.Path P s out s' := by
  have hPath := Path.step hState hStep (Path.refl s')
  rwa [List.append_nil] at hPath

theorem Path.trans {outs outs' : List ω} (h : p.Path P s outs s1) (h' : p.Path P s1 outs' s') :
    p.Path P s (outs ++ outs') s' := by
  induction h with
  | refl s => exact h'
  | step hState hStep rest ih =>
    rw [List.append_assoc]
    exact .step hState hStep (ih h')

/-- What is put out on a path comes before what is put out from its end. -/
theorem Path.run {outs : List ω} (h : p.Path P s outs s') :
    p.run s = (outs ++ (p.run s').1, (p.run s').2) := by
  induction h with
  | refl s => rfl
  | step hState hStep rest ih => rw [run_goes hStep, ih, List.append_assoc]

/-- All states that the pump comes to are on the path or behind it. -/
theorem Path.passes {outs : List ω} (h : p.Path P s outs s') (hEnd : ∀ t, p.Passes s' t → P t) :
    ∀ t, p.Passes s t → P t := by
  induction h with
  | refl s => exact hEnd
  | step hState hStep rest ih => exact passes_goes hStep hState (ih hEnd)

section Pieces

variable {extend : σ → List δ → σ}

/-- Over the input up to a wait, and over what follows it, the pump comes to states with the property if it
does over the whole. -/
theorem passes_extend (hLess : ∀ s d, P (extend s d) → P s) (hResume : ∀ s, P s → p.Resumable extend s)
    (hWaits : ∀ s s' d, P (extend s d) → p.step s = .waits s' → P (extend s' d)) (d : List δ) (s : σ)
    (h : ∀ t, p.Passes (extend s d) t → P t) :
    (∀ t, p.Passes s t → P t) ∧
      ((p.run s).2.1 = none → ∀ t, p.Passes (extend (p.run s).2.2 d) t → P t) := by
  induction s using p.induct with
  | h s ih =>
    have hState := h _ .refl
    have hResumable := hResume s (hLess s d hState) d
    cases hStep : p.step s with
    | goes out s1 =>
      rw [hStep] at hResumable
      obtain ⟨hAll, hEnd⟩ := ih out s1 hStep fun t ht => h t (.head ⟨out, hResumable⟩ ht)
      rw [run_goes hStep]
      exact ⟨passes_goes hStep (hLess s d hState) hAll, hEnd⟩
    | waits s1 =>
      rw [hStep] at hResumable
      rw [run_waits hStep]
      refine ⟨passes_end (by rw [hStep]; rintro _ _ ⟨⟩) (hLess s d hState), fun _ t ht => ?_⟩
      rcases Relation.ReflTransGen.cases_head ht with rfl | ⟨s2, ⟨out, hFirst⟩, hPasses⟩
      · exact hWaits s s1 d hState hStep
      · exact h t (.head ⟨out, hResumable.trans hFirst⟩ hPasses)
    | stops out why s1 =>
      rw [run_stops hStep]
      exact ⟨passes_end (by rw [hStep]; rintro _ _ ⟨⟩) (hLess s d hState), by rintro ⟨⟩⟩

/-- A pump that comes to states with the property only when it has the whole input comes to no others when
it is fed the input in pieces. -/
theorem fed_of_whole (hLess : ∀ s d, P (extend s d) → P s) (hResume : ∀ s, P s → p.Resumable extend s)
    (hWaits : ∀ s s' d, P (extend s d) → p.step s = .waits s' → P (extend s' d))
    (hExtend : ∀ s d d', extend (extend s d) d' = extend s (d ++ d')) (ds : List (List δ)) (s : σ)
    (h : ∀ t, p.Passes (extend s ds.flatten) t → P t) : p.Fed extend P s ds := by
  induction ds generalizing s with
  | nil => trivial
  | cons d ds ih =>
    rw [List.flatten_cons, ← hExtend] at h
    obtain ⟨hAll, hEnd⟩ := passes_extend hLess hResume hWaits ds.flatten (extend s d) h
    refine ⟨hAll, ?_⟩
    generalize p.run (extend s d) = result at hEnd
    obtain ⟨out, why, s'⟩ := result
    cases why with
    | none => exact ih s' (hEnd rfl)
    | some why => trivial

end Pieces

end Xiu.ProofKit.Pump
