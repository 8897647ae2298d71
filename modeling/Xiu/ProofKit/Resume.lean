import Xiu.ProofKit.Loop

/-! Readers that stop for lack of input and go on when more of it arrives.

An action resumes when nothing that it did before it stopped is forgotten: with more input from the
start it does what it would do with that input after the stop.  A pump is a machine that steps until
it waits for input or stops for good.  When each of its steps resumes, cutting the input into pieces
changes nothing of what it puts out. -/

namespace Xiu.ProofKit

section Resumes

variable {ε σ δ α β : Type} (extend : σ → List δ → σ) (waits : ε → Prop)

/-- More input does not change what the action did, and after a wait it goes on where it was. -/
def Resumes (x : EStateM ε σ α) (s : σ) : Prop :=
  ∀ d, match x s with
    | .ok a s' => x (extend s d) = .ok a (extend s' d)
    | .error e s' =>
      (waits e → x (extend s d) = x (extend s' d)) ∧
        (¬waits e → x (extend s d) = .error e (extend s' d))

variable {extend waits} {x : EStateM ε σ α} {s s' : σ}

theorem Resumes.ok {a : α} (h : Resumes extend waits x s) (hx : x s = .ok a s') (d : List δ) :
    x (extend s d) = .ok a (extend s' d) := by
  have hd := h d
  rwa [hx] at hd

theorem Resumes.wait {e : ε} (h : Resumes extend waits x s) (hx : x s = .error e s')
    (he : waits e) (d : List δ) : x (extend s d) = x (extend s' d) := by
  have hd := h d
  rw [hx] at hd
  exact hd.1 he

theorem Resumes.fault {e : ε} (h : Resumes extend waits x s) (hx : x s = .error e s')
    (he : ¬waits e) (d : List δ) : x (extend s d) = .error e (extend s' d) := by
  have hd := h d
  rw [hx] at hd
  exact hd.2 he

/-- An action resumes when it is one that does, wherever the states of its run lie. -/
theorem Resumes.of_eqOn {y : EStateM ε σ α} {P : σ → Prop} (h : Resumes extend waits y s)
    (hEq : ∀ t, P t → x t = y t) (hs : P s) (hExtend : ∀ t d, P t → P (extend t d))
    (hError : ∀ e s', x s = .error e s' → P s') : Resumes extend waits x s := by
  intro d
  cases hx : x s with
  | ok a s' => rw [hEq _ (hExtend s d hs)]; exact h.ok ((hEq s hs).symm.trans hx) d
  | error e s' =>
    have hy := (hEq s hs).symm.trans hx
    rw [hEq _ (hExtend s d hs)]
    refine ⟨fun he => ?_, fun he => h.fault hy he d⟩
    rw [hEq _ (hExtend s' d (hError e s' hx))]
    exact h.wait hy he d

/-- What follows an action that resumes may change the state in a way that more input does not
disturb. -/
theorem Resumes.bind {f : α → EStateM ε σ β} (h : Resumes extend waits x s)
    (hf : ∀ a t, ∃ b t', f a t = .ok b t' ∧ ∀ d, f a (extend t d) = .ok b (extend t' d)) :
    Resumes extend waits (x >>= f) s := by
  intro d
  cases hx : x s with
  | ok a s1 =>
    obtain ⟨b, t, hb, hd⟩ := hf a s1
    rw [bind_of_ok hx, bind_of_ok (h.ok hx d), hb]
    exact hd d
  | error e s1 =>
    rw [bind_of_error hx]
    refine ⟨fun he => ?_, fun he => bind_of_error (h.fault hx he d)⟩
    simp only [Bind.bind, EStateM.bind, h.wait hx he d]

/-- A loop resumes when its turns do and its loop variable carries nothing. -/
theorem Resumes.loopM [Subsingleton α] {turn : α → EStateM ε σ (Turn α β)} {measure : σ → Nat}
    {decreases : ∀ a a' s s', turn a s = .ok (.again a') s' → measure s' < measure s}
    (h : ∀ a s, Resumes extend waits (turn a) s) (a : α) (s : σ) :
    Resumes extend waits (loopM turn measure decreases a) s := by
  induction a, s using loopM_induct turn measure decreases with
  | again a s a' s' hTurn ih =>
    intro d
    rw [loopM_again hTurn, loopM_again ((h a s).ok hTurn d), Subsingleton.elim a a']
    exact ih d
  | done a s b s' hTurn =>
    intro d
    rw [loopM_done hTurn]
    exact loopM_done ((h a s).ok hTurn d)
  | error a s e s' hTurn =>
    intro d
    rw [loopM_error hTurn]
    refine ⟨fun he => ?_, fun he => loopM_error ((h a s).fault hTurn he d)⟩
    have hd := (h a s).wait hTurn he d
    cases hNext : turn a (extend s' d) with
    | ok r t =>
      cases r with
      | again a' => rw [loopM_again hNext, loopM_again (hd.trans hNext)]
      | done b => rw [loopM_done hNext, loopM_done (hd.trans hNext)]
    | error e' t => rw [loopM_error hNext, loopM_error (hd.trans hNext)]

end Resumes

/-! ### Pumps -/

/-- What a pump does in a step: go on with some output, wait for input, or stop for a reason. -/
inductive PumpStep (σ ω κ : Type) where
  | goes (out : List ω) (s : σ)
  | waits (s : σ)
  | stops (out : List ω) (why : κ) (s : σ)

structure Pump (σ ω κ : Type) where
  step : σ → PumpStep σ ω κ
  measure : σ → Nat
  decreases : ∀ s out s', step s = .goes out s' → measure s' < measure s

namespace Pump

variable {σ ω κ δ : Type} (p : Pump σ ω κ)

/-- The steps of a pump as a loop that collects the output. -/
def loop : Loop (List ω × σ) (List ω × Option κ × σ) where
  body := fun (outs, s) =>
    match p.step s with
    | .goes out s' => .again (outs ++ out, s')
    | .waits s' => .done (outs, none, s')
    | .stops out why s' => .done (outs ++ out, some why, s')
  measure := fun (_, s) => p.measure s
  decreases := fun (outs, s) (outs', s') h => by
    dsimp only at h ⊢
    split at h
    · cases h
      exact p.decreases _ _ _ ‹_›
    all_goals cases h

/-- What a pump puts out from a state, why it stops if it does, and the state it leaves. -/
def run (s : σ) : List ω × Option κ × σ := p.loop.run ([], s)

/-- One state leads to another in steps that go on. -/
def Passes : σ → σ → Prop := Relation.ReflTransGen fun s s' => ∃ out, p.step s = .goes out s'

/-- Induction over the steps of a pump. -/
theorem induct {motive : σ → Prop}
    (h : ∀ s, (∀ out s', p.step s = .goes out s' → motive s') → motive s) (s : σ) : motive s := by
  induction hn : p.measure s using Nat.strongRecOn generalizing s with
  | ind n ih =>
    subst hn
    exact h s fun out s' hs => ih _ (p.decreases s out s' hs) s' rfl

theorem loop_run (outs : List ω) (s : σ) :
    p.loop.run (outs, s) = (outs ++ (p.run s).1, (p.run s).2) := by
  have key : ∀ s outs pre, p.loop.run (pre ++ outs, s) =
      (pre ++ (p.loop.run (outs, s)).1, (p.loop.run (outs, s)).2) := by
    intro s
    induction s using p.induct with
    | h s ih =>
      intro outs pre
      cases hStep : p.step s with
      | goes out s' =>
        have hBody : ∀ o, p.loop.body (o, s) = .again (o ++ out, s') := fun o => by
          simp only [loop, hStep]
        rw [p.loop.run_again (hBody outs), p.loop.run_again (hBody (pre ++ outs)),
          List.append_assoc]
        exact ih out s' hStep (outs ++ out) pre
      | waits s' =>
        have hBody : ∀ o, p.loop.body (o, s) = .done (o, none, s') := fun o => by
          simp only [loop, hStep]
        rw [p.loop.run_done (hBody outs), p.loop.run_done (hBody (pre ++ outs))]
      | stops out why s' =>
        have hBody : ∀ o, p.loop.body (o, s) = .done (o ++ out, some why, s') := fun o => by
          simp only [loop, hStep]
        rw [p.loop.run_done (hBody outs), p.loop.run_done (hBody (pre ++ outs)),
          List.append_assoc]
  have h := key s [] outs
  rwa [List.append_nil] at h

/-- What a pump puts out after a step. -/
def after : PumpStep σ ω κ → List ω × Option κ × σ
  | .goes out s => (out ++ (p.run s).1, (p.run s).2)
  | .waits s => ([], none, s)
  | .stops out why s => (out, some why, s)

variable {p} {s s' : σ}

theorem run_goes {out : List ω} (h : p.step s = .goes out s') :
    p.run s = (out ++ (p.run s').1, (p.run s').2) := by
  refine (p.loop.run_again (t := ([] ++ out, s')) (by simp only [loop, h])).trans ?_
  rw [p.loop_run, List.nil_append]

theorem run_waits (h : p.step s = .waits s') : p.run s = ([], none, s') :=
  p.loop.run_done (by simp only [loop, h])

theorem run_stops {out : List ω} {why : κ} (h : p.step s = .stops out why s') :
    p.run s = (out, some why, s') :=
  p.loop.run_done (by simp only [loop, h, List.nil_append])

theorem run_eq (s : σ) : p.run s = p.after (p.step s) := by
  cases h : p.step s with
  | goes out s' => exact run_goes h
  | waits s' => exact run_waits h
  | stops out why s' => exact run_stops h

/-- What holds of a state and of what it goes on to holds of all that it leads to. -/
theorem passes_goes {P : σ → Prop} {out : List ω} (h : p.step s = .goes out s') (hs : P s)
    (hRest : ∀ t, p.Passes s' t → P t) (t : σ) (ht : p.Passes s t) : P t := by
  rcases Relation.ReflTransGen.cases_head ht with rfl | ⟨s1, ⟨out1, hFirst⟩, hPasses⟩
  · exact hs
  · rw [h] at hFirst
    cases hFirst
    exact hRest t hPasses

theorem passes_end {P : σ → Prop} (h : ∀ out s', p.step s ≠ .goes out s') (hs : P s) (t : σ)
    (ht : p.Passes s t) : P t := by
  rcases Relation.ReflTransGen.cases_head ht with rfl | ⟨s1, ⟨out, hFirst⟩, -⟩
  · exact hs
  · exact absurd hFirst (h out s1)

section Feed

variable (p) (extend : σ → List δ → σ)

/-- More input does not change what a step does, and after a wait the pump goes on where it was. -/
def Resumable (s : σ) : Prop :=
  ∀ d, match p.step s with
    | .goes out s' => p.step (extend s d) = .goes out (extend s' d)
    | .waits s' => p.step (extend s d) = p.step (extend s' d)
    | .stops out why s' => p.step (extend s d) = .stops out why (extend s' d)

/-- Gives a pump its input piece by piece, until it stops. -/
def feed : σ → List (List δ) → List ω × Option κ × σ
  | s, [] => ([], none, s)
  | s, d :: ds =>
    match p.run (extend s d) with
    | (out, none, s') => (out ++ (feed s' ds).1, (feed s' ds).2)
    | (out, some why, s') => (out, some why, s')

/-- While a pump is fed, it comes only to states with a property. -/
def Fed (P : σ → Prop) : σ → List (List δ) → Prop
  | _, [] => True
  | s, d :: ds =>
    (∀ t, p.Passes (extend s d) t → P t) ∧
      match p.run (extend s d) with
      | (_, none, s') => Fed P s' ds
      | (_, some _, _) => True

variable {p extend}

/-- More input from the start gives what it gives after the run without it. -/
theorem run_extend (d : List δ) (s : σ) (h : ∀ t, p.Passes s t → p.Resumable extend t) :
    p.run (extend s d) =
      match p.run s with
      | (out, none, s') => (out ++ (p.run (extend s' d)).1, (p.run (extend s' d)).2)
      | (out, some why, s') => (out, some why, extend s' d) := by
  induction s using p.induct with
  | h s ih =>
    have hResumable := h s .refl d
    cases hStep : p.step s with
    | goes out s1 =>
      rw [hStep] at hResumable
      have hNext := ih out s1 hStep fun t ht => h t (.head ⟨out, hStep⟩ ht)
      rw [run_goes hResumable, run_goes hStep, hNext]
      rcases p.run s1 with ⟨outs, why, t⟩
      cases why with
      | none => simp only [List.append_assoc]
      | some why => rfl
    | waits s1 =>
      rw [hStep] at hResumable
      rw [run_eq (extend s d), hResumable, ← run_eq, run_waits hStep]
      rfl
    | stops out why s1 =>
      rw [hStep] at hResumable
      rw [run_stops hResumable, run_stops hStep]

theorem feed_singleton (d : List δ) (s : σ) : p.feed extend s [d] = p.run (extend s d) := by
  unfold feed
  rcases p.run (extend s d) with ⟨out, why, s'⟩
  cases why with
  | none => exact congrArg (·, (none, s')) (List.append_nil out)
  | some why => rfl

/-- Pieces give what their concatenation gives, when the pump can be resumed in every state that it
comes to before the last piece. -/
theorem feed_flatten (hExtend : ∀ s d d', extend (extend s d) d' = extend s (d ++ d'))
    (ds : List (List δ)) (last : List δ) (s : σ) (h : p.Fed extend (p.Resumable extend) s ds) :
    (p.feed extend s (ds ++ [last])).1 = (p.run (extend s (ds ++ [last]).flatten)).1 ∧
      (p.feed extend s (ds ++ [last])).2.1 = (p.run (extend s (ds ++ [last]).flatten)).2.1 := by
  induction ds generalizing s with
  | nil =>
    rw [List.nil_append, List.flatten_cons, List.flatten_nil, List.append_nil, feed_singleton]
    exact ⟨rfl, rfl⟩
  | cons d ds ih =>
    obtain ⟨hPasses, hRest⟩ := h
    rw [List.cons_append, List.flatten_cons, ← hExtend, run_extend _ _ hPasses]
    unfold feed
    generalize p.run (extend s d) = result at hRest
    obtain ⟨out, why, s'⟩ := result
    cases why with
    | none =>
      obtain ⟨hOut, hWhy⟩ := ih s' hRest
      exact ⟨congrArg (out ++ ·) hOut, hWhy⟩
    | some why => exact ⟨rfl, rfl⟩

/-- A pump stops only as its steps do. -/
theorem run_why {P : σ → Prop} {Q : κ → Prop}
    (hStep : ∀ t out why t', P t → p.step t = .stops out why t' → Q why) (s : σ)
    (h : ∀ t, p.Passes s t → P t) (why : κ) (hWhy : (p.run s).2.1 = some why) : Q why := by
  induction s using p.induct with
  | h s ih =>
    cases hs : p.step s with
    | goes out s' =>
      rw [run_goes hs] at hWhy
      exact ih out s' hs (fun t ht => h t (.head ⟨out, hs⟩ ht)) hWhy
    | waits s' =>
      rw [run_waits hs] at hWhy
      cases hWhy
    | stops out why' s' =>
      rw [run_stops hs] at hWhy
      cases hWhy
      exact hStep s out _ s' (h s .refl) hs

theorem feed_why {P : σ → Prop} {Q : κ → Prop}
    (hStep : ∀ t out why t', P t → p.step t = .stops out why t' → Q why) (ds : List (List δ))
    (s : σ) (h : p.Fed extend P s ds) (why : κ) (hWhy : (p.feed extend s ds).2.1 = some why) :
    Q why := by
  induction ds generalizing s with
  | nil => cases hWhy
  | cons d ds ih =>
    obtain ⟨hPasses, hRest⟩ := h
    have hRun := run_why hStep (extend s d) hPasses
    unfold feed at hWhy
    generalize p.run (extend s d) = result at hRest hWhy hRun
    obtain ⟨out, why', s'⟩ := result
    cases why' with
    | none => exact ih s' hRest hWhy
    | some why' =>
      cases hWhy
      exact hRun _ rfl

theorem Fed.mono {P Q : σ → Prop} (hPQ : ∀ t, P t → Q t) {ds : List (List δ)} {s : σ}
    (h : p.Fed extend P s ds) : p.Fed extend Q s ds := by
  induction ds generalizing s with
  | nil => trivial
  | cons d ds ih =>
    obtain ⟨hPasses, hRest⟩ := h
    refine ⟨fun t ht => hPQ t (hPasses t ht), ?_⟩
    generalize p.run (extend s d) = result at hRest
    obtain ⟨out, why, s'⟩ := result
    cases why with
    | none => exact ih hRest
    | some why => trivial

theorem fed_true (ds : List (List δ)) (s : σ) : p.Fed extend (fun _ => True) s ds := by
  induction ds generalizing s with
  | nil => trivial
  | cons d ds ih =>
    refine ⟨fun _ _ => trivial, ?_⟩
    generalize p.run (extend s d) = result
    obtain ⟨out, why, s'⟩ := result
    cases why with
    | none => exact ih s'
    | some why => trivial

/-- What holds while the pieces are fed holds while the first of them are. -/
theorem Fed.prefix {P : σ → Prop} {ds t : List (List δ)} {s : σ}
    (h : p.Fed extend P s (ds ++ t)) : p.Fed extend P s ds := by
  induction ds generalizing s with
  | nil => trivial
  | cons d ds ih =>
    obtain ⟨hPasses, hRest⟩ := h
    refine ⟨hPasses, ?_⟩
    generalize p.run (extend s d) = result at hRest
    obtain ⟨out, why, s'⟩ := result
    cases why with
    | none => exact ih hRest
    | some why => trivial

/-- What an invariant says of the output of a step holds of all output. -/
theorem run_out {I : σ → Prop} {Q : ω → Prop}
    (hGoes : ∀ t out t', I t → p.step t = .goes out t' → (∀ o ∈ out, Q o) ∧ I t')
    (hStops : ∀ t out why t', I t → p.step t = .stops out why t' → ∀ o ∈ out, Q o) (s : σ)
    (hs : I s) : ∀ o ∈ (p.run s).1, Q o := by
  induction s using p.induct with
  | h s ih =>
    cases hStep : p.step s with
    | goes out s' =>
      obtain ⟨hOut, hs'⟩ := hGoes s out s' hs hStep
      rw [run_goes hStep]
      intro o ho
      rcases List.mem_append.mp ho with ho | ho
      · exact hOut o ho
      · exact ih out s' hStep hs' o ho
    | waits s' =>
      rw [run_waits hStep]
      exact nofun
    | stops out why s' =>
      rw [run_stops hStep]
      exact hStops s out why s' hs hStep

/-- An invariant of the steps holds in every state that a run comes to, and where it waits. -/
theorem run_invariant {I P : σ → Prop}
    (hGoes : ∀ t out t', I t → P t → p.step t = .goes out t' → I t')
    (hWaits : ∀ t t', I t → P t → p.step t = .waits t' → I t') (s : σ) (hs : I s)
    (h : ∀ t, p.Passes s t → P t) :
    (∀ t, p.Passes s t → I t) ∧ ((p.run s).2.1 = none → I (p.run s).2.2) := by
  refine ⟨fun t ht => ?_, ?_⟩
  · induction ht with
    | refl => exact hs
    | tail ht hStep ih =>
      obtain ⟨out, hStep⟩ := hStep
      exact hGoes _ out _ ih (h _ ht) hStep
  · induction s using p.induct with
    | h s ih =>
      cases hStep : p.step s with
      | goes out s' =>
        rw [run_goes hStep]
        exact ih out s' hStep (hGoes s out s' hs (h s .refl) hStep)
          fun t ht => h t (.head ⟨out, hStep⟩ ht)
      | waits s' =>
        rw [run_waits hStep]
        exact fun _ => hWaits s s' hs (h s .refl) hStep
      | stops out why s' =>
        rw [run_stops hStep]
        exact nofun

/-- An invariant of the steps holds in every state that a fed pump comes to. -/
theorem Fed.invariant {I P : σ → Prop} (hExtend : ∀ t d, I t → I (extend t d))
    (hGoes : ∀ t out t', I t → P t → p.step t = .goes out t' → I t')
    (hWaits : ∀ t t', I t → P t → p.step t = .waits t' → I t') {ds : List (List δ)} {s : σ}
    (hs : I s) (h : p.Fed extend P s ds) : p.Fed extend I s ds := by
  induction ds generalizing s with
  | nil => trivial
  | cons d ds ih =>
    obtain ⟨hPasses, hRest⟩ := h
    obtain ⟨hInv, hLast⟩ := run_invariant hGoes hWaits (extend s d) (hExtend s d hs) hPasses
    refine ⟨hInv, ?_⟩
    generalize p.run (extend s d) = result at hRest hLast
    obtain ⟨out, why, s'⟩ := result
    cases why with
    | none => exact ih (hLast rfl) hRest
    | some why => trivial

/-! ### Where a pump breaks -/

/-- What a pump that has come to a state does with the pieces still to come. -/
def resume (p : Pump σ ω κ) (extend : σ → List δ → σ) (t : σ) (more : List (List δ)) :
    List ω × Option κ × σ :=
  match p.run t with
  | (out, none, t') => (out ++ (p.feed extend t' more).1, (p.feed extend t' more).2)
  | (out, some why, t') => (out, some why, t')

/-- The pump breaks in state `t` while it reads the piece before number `n`: `t` is the first state
without the property, and all that is put out before it is `outs`. -/
structure Breaks (p : Pump σ ω κ) (extend : σ → List δ → σ) (P : σ → Prop) (s : σ)
    (ds : List (List δ)) (n : Nat) (outs : List ω) (t : σ) : Prop where
  bad : ¬P t
  visited : ∀ Q, p.Fed extend Q s ds → Q t
  whole : ∀ d, p.run (extend s ((ds.take n).flatten ++ d)) =
    (outs ++ (p.run (extend t d)).1, (p.run (extend t d)).2)
  pieces : ∀ more, p.feed extend s (ds.take n ++ more) =
    (outs ++ (p.resume extend t more).1, (p.resume extend t more).2)
  fed : ∀ Q more, p.Fed extend Q s ds →
    (∀ out t', p.run t = (out, none, t') → p.Fed extend Q t' more) →
      p.Fed extend Q s (ds.take n ++ more)

/-- A run either keeps a property or comes to a first state without it. -/
theorem run_or_breaks {P : σ → Prop} (hP : ∀ t, P t → p.Resumable extend t) (s : σ) :
    (∀ t, p.Passes s t → P t) ∨
      ∃ outs t, ¬P t ∧ p.Passes s t ∧ p.run s = (outs ++ (p.run t).1, (p.run t).2) ∧
        ∀ d, p.run (extend s d) = (outs ++ (p.run (extend t d)).1, (p.run (extend t d)).2) := by
  induction s using p.induct with
  | h s ih =>
    by_cases hs : P s
    · cases hStep : p.step s with
      | goes out s' =>
        rcases ih out s' hStep with hAll | ⟨outs, t, hBad, hPasses, hRun, hMore⟩
        · exact .inl (passes_goes hStep hs hAll)
        · refine .inr ⟨out ++ outs, t, hBad, .head ⟨out, hStep⟩ hPasses, ?_, fun d => ?_⟩
          · rw [run_goes hStep, hRun, List.append_assoc]
          · have hd := hP s hs d
            rw [hStep] at hd
            rw [run_goes hd, hMore, List.append_assoc]
      | waits s' => exact .inl (passes_end (by rw [hStep]; exact nofun) hs)
      | stops out why s' => exact .inl (passes_end (by rw [hStep]; exact nofun) hs)
    · exact .inr ⟨[], s, hs, .refl, rfl, fun d => rfl⟩

/-- A pump that is fed either keeps a property or breaks. -/
theorem fed_or_breaks {P : σ → Prop} (hP : ∀ t, P t → p.Resumable extend t)
    (hExtend : ∀ s d d', extend (extend s d) d' = extend s (d ++ d')) (ds : List (List δ)) (s : σ) :
    p.Fed extend P s ds ∨ ∃ n outs t, p.Breaks extend P s ds n outs t := by
  induction ds generalizing s with
  | nil => exact .inl trivial
  | cons d ds ih =>
    rcases run_or_breaks hP (extend s d) with hAll | ⟨outs, t, hBad, hPasses, hRun, hMore⟩
    · have hResumable := fun t ht => hP t (hAll t ht)
      generalize hResult : p.run (extend s d) = result
      obtain ⟨out, why, s'⟩ := result
      cases why with
      | some why => exact .inl ⟨hAll, by rw [hResult]; trivial⟩
      | none =>
        rcases ih s' with hFed | ⟨n, outs, t, hBreaks⟩
        · exact .inl ⟨hAll, by rw [hResult]; exact hFed⟩
        · refine .inr ⟨n + 1, out ++ outs, t, hBreaks.bad, fun Q hQ => ?_, fun d' => ?_,
            fun more => ?_, fun Q more hQ hRest => ?_⟩
          · have hQ' := hQ.2
            rw [hResult] at hQ'
            exact hBreaks.visited Q hQ'
          · rw [List.take_succ_cons, List.flatten_cons, List.append_assoc, ← hExtend,
              run_extend _ _ hResumable, hResult]
            dsimp only
            rw [hBreaks.whole, List.append_assoc]
          · rw [List.take_succ_cons, List.cons_append, feed, hResult]
            dsimp only
            rw [hBreaks.pieces, List.append_assoc]
          · have hQ' := hQ.2
            rw [hResult] at hQ'
            rw [List.take_succ_cons, List.cons_append]
            refine ⟨hQ.1, ?_⟩
            rw [hResult]
            exact hBreaks.fed Q more hQ' hRest
    · refine .inr ⟨1, outs, t, hBad, fun Q hQ => hQ.1 t hPasses, fun d' => ?_, fun more => ?_,
        fun Q more hQ hRest => ⟨hQ.1, ?_⟩⟩
      · rw [List.take_succ_cons, List.take_zero, List.flatten_cons, List.flatten_nil,
          List.append_nil, ← hExtend, hMore]
      · rw [List.take_succ_cons, List.take_zero, List.cons_append, List.nil_append, feed, hRun,
          resume]
        generalize p.run t = result
        obtain ⟨out, why, t'⟩ := result
        cases why with
        | none => dsimp only; rw [List.append_assoc]
        | some why => rfl
      · rw [hRun]
        generalize p.run t = result at hRest
        obtain ⟨out, why, t'⟩ := result
        cases why with
        | none => exact hRest out t' rfl
        | some why => trivial

end Feed

end Pump

end Xiu.ProofKit
