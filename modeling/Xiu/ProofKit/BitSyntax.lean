import Xiu.ProofKit.Bits

/-! Syntax tables over bits: what is read next follows from what was read so far, a bit or an
Exp-Golomb code at a time.  A derivation leads along a table by the bits it reads. -/

namespace Xiu.ProofKit

/-- What is left of a table: its result, a place beyond which it does not go on, or what is read next. -/
inductive BitSyntax (ρ : Type) where
  | done (r : ρ)
  | stop
  | bit (next : Bool → BitSyntax ρ)
  | code (next : Nat → BitSyntax ρ)

namespace BitSyntax

variable {ρ τ : Type}

def bind : BitSyntax ρ → (ρ → BitSyntax τ) → BitSyntax τ
  | done r, f => f r
  | stop, _ => stop
  | bit next, f => bit fun b => (next b).bind f
  | code next, f => code fun n => (next n).bind f

instance : Monad BitSyntax where
  pure := done
  bind := bind

def readBit : BitSyntax Bool := bit done

def readCode : BitSyntax Nat := code done

/-- The bits `read` lead from one place of a table to another, when codes have fewer than `limit`
zeros. -/
inductive Leads (limit : Nat) : BitSyntax ρ → List Bool → BitSyntax ρ → Prop
  | refl (t : BitSyntax ρ) : Leads limit t [] t
  | bit {next : Bool → BitSyntax ρ} {b : Bool} {read : List Bool} {t : BitSyntax ρ} :
    Leads limit (next b) read t → Leads limit (bit next) (b :: read) t
  | code {next : Nat → BitSyntax ρ} {suffix read : List Bool} {t : BitSyntax ρ} :
    suffix.length < limit → Leads limit (next (codeNum suffix)) read t →
      Leads limit (code next) (codeword suffix ++ read) t

variable {limit : Nat} {t t1 t2 : BitSyntax ρ}

theorem Leads.trans {read read' : List Bool} (h : Leads limit t read t1) (h' : Leads limit t1 read' t2) :
    Leads limit t (read ++ read') t2 := by
  induction h with
  | refl t => exact h'
  | bit _ ih => exact .bit (ih h')
  | code hSuffix _ ih =>
    rw [List.append_assoc]
    exact .code hSuffix (ih h')

/-- A derivation in a table is one in the table that goes on behind it. -/
theorem Leads.bind {read : List Bool} (h : Leads limit t read t1) (f : ρ → BitSyntax τ) :
    Leads limit (t >>= f) read (t1 >>= f) := by
  induction h with
  | refl t => exact .refl _
  | bit _ ih => exact .bit ih
  | code hSuffix _ ih => exact .code hSuffix ih

/-- A part of a table is read to its end, and then what follows. -/
theorem Leads.andThen {read read' : List Bool} {r : ρ} {f : ρ → BitSyntax τ} {t2 : BitSyntax τ}
    (h : Leads limit t read (done r)) (h' : Leads limit (f r) read' t2) :
    Leads limit (t >>= f) (read ++ read') t2 :=
  (h.bind f).trans h'

theorem leads_readBit (b : Bool) : Leads limit readBit [b] (done b) := .bit (.refl _)

/-- The code of a number is read. -/
theorem leads_readCode {n : Nat} (h : n + 1 < 2 ^ limit) :
    Leads limit readCode (golomb n) (done n) := by
  have hCode : Leads limit readCode (codeword (suffixOf n) ++ []) (done (codeNum (suffixOf n))) :=
    .code (length_suffixOf_lt h) (.refl _)
  rwa [List.append_nil, codeNum_suffixOf] at hCode

/-- All results are of this kind. -/
def Yields (P : ρ → Prop) : BitSyntax ρ → Prop
  | done r => P r
  | stop => True
  | bit next => ∀ b, (next b).Yields P
  | code next => ∀ n, (next n).Yields P

theorem Yields.led {P : ρ → Prop} {read : List Bool} {r : ρ} (h : t.Yields P)
    (hLeads : Leads limit t read (done r)) : P r := by
  generalize hEnd : done r = last at hLeads
  induction hLeads with
  | refl t =>
    subst hEnd
    exact h
  | bit _ ih => exact ih (h _) hEnd
  | code _ _ ih => exact ih (h _) hEnd

theorem Yields.bind {P : ρ → Prop} {Q : τ → Prop} {f : ρ → BitSyntax τ} (h : t.Yields P)
    (hNext : ∀ r, P r → (f r).Yields Q) : (t >>= f).Yields Q := by
  induction t with
  | done r => exact hNext r h
  | stop => exact trivial
  | bit next ih =>
    intro b
    exact ih b (h b)
  | code next ih =>
    intro n
    exact ih n (h n)

theorem yields_any (t : BitSyntax ρ) : t.Yields fun _ => True := by
  induction t with
  | done r => exact trivial
  | stop => exact trivial
  | bit next ih => exact ih
  | code next ih => exact ih

theorem yields_bind {Q : τ → Prop} (t : BitSyntax ρ) {f : ρ → BitSyntax τ} (h : ∀ r, (f r).Yields Q) :
    (t >>= f).Yields Q :=
  (yields_any t).bind fun r _ => h r

/-! ### Where bits lead -/

variable {bits : List Bool}

/-- The bits begin with some that lead to a place from which the table does not go on. -/
def Stops (limit : Nat) (t : BitSyntax ρ) (bits : List Bool) : Prop :=
  ∃ read rest, bits = read ++ rest ∧ Leads limit t read stop

/-- The bits begin with some that lead to a code, and go on with too many zeros and a one. -/
def Overlong (limit : Nat) (t : BitSyntax ρ) (bits : List Bool) : Prop :=
  ∃ read zeros rest next, bits = read ++ (List.replicate zeros false ++ true :: rest) ∧
    Leads limit t read (code next) ∧ limit ≤ zeros

/-- What bits lead to behind some that are read. -/
theorem Stops.after {read : List Bool} (hRead : Leads limit t read t1) (h : Stops limit t1 bits) :
    Stops limit t (read ++ bits) := by
  obtain ⟨read', rest, rfl, hLeads⟩ := h
  exact ⟨read ++ read', rest, (List.append_assoc _ _ _).symm, hRead.trans hLeads⟩

/-- A part of a table is read to its end, and what follows stops. -/
theorem Leads.andStops {read : List Bool} {r : ρ} {f : ρ → BitSyntax τ} (h : Leads limit t read (done r))
    (h' : Stops limit (f r) bits) : Stops limit (t >>= f) (read ++ bits) :=
  h'.after (h.bind f)

/-- A part of a table stops, whatever follows. -/
theorem Stops.bind (h : Stops limit t bits) (f : ρ → BitSyntax τ) : Stops limit (t >>= f) bits := by
  obtain ⟨read, rest, hBits, hLeads⟩ := h
  exact ⟨read, rest, hBits, hLeads.bind f⟩

theorem Stops.append (h : Stops limit t bits) (more : List Bool) : Stops limit t (bits ++ more) := by
  obtain ⟨read, rest, rfl, hLeads⟩ := h
  exact ⟨read, rest ++ more, List.append_assoc _ _ _, hLeads⟩

theorem Overlong.after {read : List Bool} (hRead : Leads limit t read t1) (h : Overlong limit t1 bits) :
    Overlong limit t (read ++ bits) := by
  obtain ⟨read', zeros, rest, next, rfl, hLeads, hZeros⟩ := h
  exact ⟨read ++ read', zeros, rest, next, (List.append_assoc _ _ _).symm, hRead.trans hLeads, hZeros⟩

theorem leads_bit (next : Bool → BitSyntax ρ) (b : Bool) : Leads limit (bit next) [b] (next b) :=
  .bit (.refl _)

theorem leads_code (next : Nat → BitSyntax ρ) {suffix : List Bool} (h : suffix.length < limit) :
    Leads limit (code next) (codeword suffix) (next (codeNum suffix)) := by
  have hLeads := Leads.code h (.refl (next (codeNum suffix)))
  rwa [List.append_nil] at hLeads

end BitSyntax

end Xiu.ProofKit
