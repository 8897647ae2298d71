import Mathlib.Tactic.Common

/-! Input that comes in pieces, of which a party takes one after the other until it has enough. -/

namespace Xiu.ProofKit

variable {σ α : Type}

/-- Pieces are taken until there are enough items, counted from a length on.  The pieces may end before. -/
def collect (extend : σ → List α → σ) (enough : Nat) :
    Nat → List (List α) → σ → Option (σ × List (List α))
  | length, [], s => if length < enough then none else some (s, [])
  | length, piece :: pieces, s =>
    if length < enough then collect extend enough (length + piece.length) pieces (extend s piece)
    else some (s, piece :: pieces)

/-- The pieces up to the one with which there are enough, from a length on. -/
structure Suffices (enough length : Nat) (taken : List (List α)) : Prop where
  reaches : enough ≤ length + taken.flatten.length
  minimal : ∀ before after, taken = before ++ after → after ≠ [] →
    length + before.flatten.length < enough

variable {extend : σ → List α → σ} {enough length : Nat} {pieces taken rest : List (List α)} {s s' : σ}

theorem suffices_nil (h : enough ≤ length) : Suffices enough length ([] : List (List α)) := by
  refine ⟨Nat.le_trans h (Nat.le_add_right _ _), ?_⟩
  intro before after hSplit hAfter
  exact absurd (List.append_eq_nil_iff.mp hSplit.symm).2 hAfter

theorem suffices_cons {piece : List α} (hLess : length < enough) :
    Suffices enough length (piece :: taken) ↔ Suffices enough (length + piece.length) taken := by
  constructor
  · intro h
    refine ⟨?_, ?_⟩
    · have hEnough := h.reaches
      rw [List.flatten_cons, List.length_append] at hEnough
      omega
    · rintro before after rfl hAfter
      have hMinimal := h.minimal (piece :: before) after rfl hAfter
      rw [List.flatten_cons, List.length_append] at hMinimal
      omega
  · intro h
    refine ⟨?_, ?_⟩
    · have hEnough := h.reaches
      rw [List.flatten_cons, List.length_append]
      omega
    · intro before after hSplit hAfter
      cases before with
      | nil => exact hLess
      | cons piece' before =>
        obtain ⟨rfl, hRest⟩ := List.cons.inj hSplit
        have hMinimal := h.minimal before after hRest hAfter
        rw [List.flatten_cons, List.length_append]
        omega

/-- What is collected are the pieces that suffice. -/
theorem collect_of_suffices (h : Suffices enough length taken) :
    collect extend enough length (taken ++ rest) s = some (taken.foldl extend s, rest) := by
  induction taken generalizing length s with
  | nil =>
    have hEnough := h.reaches
    have hNot : ¬length < enough := Nat.not_lt.mpr hEnough
    cases rest with
    | nil => rw [List.append_nil, collect, if_neg hNot, List.foldl_nil]
    | cons piece rest => rw [List.nil_append, collect, if_neg hNot, List.foldl_nil]
  | cons piece taken ih =>
    have hLess : length < enough := h.minimal [] (piece :: taken) rfl (List.cons_ne_nil _ _)
    rw [List.cons_append, collect, if_pos hLess, List.foldl_cons]
    exact ih ((suffices_cons hLess).mp h)

/-- Pieces without enough items are not enough. -/
theorem collect_of_lt (h : length + pieces.flatten.length < enough) :
    collect extend enough length pieces s = none := by
  induction pieces generalizing length s with
  | nil => exact if_pos h
  | cons piece pieces ih =>
    rw [List.flatten_cons, List.length_append, ← Nat.add_assoc] at h
    rw [collect, if_pos (by omega)]
    exact ih h

theorem foldl_append (taken : List (List α)) (first : List α) :
    taken.foldl (· ++ ·) first = first ++ taken.flatten := by
  induction taken generalizing first with
  | nil => exact (List.append_nil first).symm
  | cons piece taken ih => rw [List.foldl_cons, ih, List.flatten_cons, List.append_assoc]

/-- Pieces with enough items begin with some that suffice. -/
theorem exists_suffices (h : enough ≤ length + pieces.flatten.length) :
    ∃ taken rest, pieces = taken ++ rest ∧ Suffices enough length taken := by
  induction pieces generalizing length with
  | nil => exact ⟨[], [], rfl, suffices_nil h⟩
  | cons piece pieces ih =>
    by_cases hLess : length < enough
    · rw [List.flatten_cons, List.length_append, ← Nat.add_assoc] at h
      obtain ⟨taken, rest, rfl, hTaken⟩ := ih h
      exact ⟨piece :: taken, rest, rfl, (suffices_cons hLess).mpr hTaken⟩
    · exact ⟨[], piece :: pieces, rfl, suffices_nil (Nat.not_lt.mp hLess)⟩

/-- The pieces that suffice are among the first ones, when these have enough items. -/
theorem Suffices.prefix_of {first : List (List α)} (h : Suffices enough length taken)
    (hPrefix : taken <+: pieces) (hFirst : first <+: pieces)
    (hEnough : enough ≤ length + first.flatten.length) : taken <+: first := by
  rcases List.prefix_or_prefix_of_prefix hPrefix hFirst with hTaken | ⟨after, hAfter⟩
  · exact hTaken
  · cases after with
    | nil => exact ⟨[], by rw [List.append_nil, ← hAfter, List.append_nil]⟩
    | cons piece after =>
      have hLess := h.minimal first (piece :: after) hAfter.symm (List.cons_ne_nil _ _)
      omega

/-- Pieces that begin with others and have no more items are these, when no piece is empty. -/
theorem eq_of_prefix {first : List (List α)} (h : taken <+: first) (hPieces : ∀ piece ∈ first, piece ≠ [])
    (hLength : first.flatten.length ≤ taken.flatten.length) : taken = first := by
  obtain ⟨after, rfl⟩ := h
  cases after with
  | nil => exact (List.append_nil taken).symm
  | cons piece after =>
    have hPiece := hPieces piece (List.mem_append_right _ List.mem_cons_self)
    have hPos := List.length_pos_iff.mpr hPiece
    rw [List.flatten_append, List.flatten_cons, List.length_append, List.length_append] at hLength
    omega

theorem flatten_length_le {first : List (List α)} (h : taken <+: first) :
    taken.flatten.length ≤ first.flatten.length := by
  obtain ⟨after, rfl⟩ := h
  rw [List.flatten_append, List.length_append]
  exact Nat.le_add_right _ _

/-- The first pieces, up to some one, have this many items together. -/
def StopsAt (pieces : List (List α)) (length : Nat) : Prop :=
  ∃ first, first <+: pieces ∧ first.flatten.length = length

/-- The pieces that suffice end at the first stop with enough items. -/
theorem Suffices.le_of_stopsAt {stop : Nat} (h : Suffices enough length taken)
    (hPrefix : taken <+: pieces) (hStop : StopsAt pieces stop) (hEnough : enough ≤ length + stop) :
    taken.flatten.length ≤ stop := by
  obtain ⟨first, hFirst, rfl⟩ := hStop
  exact flatten_length_le (h.prefix_of hPrefix hFirst hEnough)

theorem stopsAt_nil : StopsAt ([] : List (List α)) length ↔ length = 0 := by
  constructor
  · rintro ⟨first, hFirst, rfl⟩
    rw [List.prefix_nil.mp hFirst]
    rfl
  · rintro rfl
    exact ⟨[], List.prefix_rfl, rfl⟩

theorem stopsAt_cons {piece : List α} :
    StopsAt (piece :: pieces) length ↔
      length = 0 ∨ ∃ more, StopsAt pieces more ∧ length = piece.length + more := by
  constructor
  · rintro ⟨first, hFirst, rfl⟩
    rcases List.prefix_cons_iff.mp hFirst with rfl | ⟨first, rfl, hRest⟩
    · exact .inl rfl
    · refine .inr ⟨first.flatten.length, ⟨first, hRest, rfl⟩, ?_⟩
      rw [List.flatten_cons, List.length_append]
  · rintro (rfl | ⟨_, ⟨first, hFirst, rfl⟩, rfl⟩)
    · exact ⟨[], List.nil_prefix, rfl⟩
    · refine ⟨piece :: first, List.cons_prefix_cons.mpr ⟨rfl, hFirst⟩, ?_⟩
      rw [List.flatten_cons, List.length_append]

/-- Where pieces stop behind the first ones. -/
theorem stopsAt_append {stop : Nat} (hLe : taken.flatten.length ≤ stop) :
    StopsAt (taken ++ rest) stop ↔ ∃ more, StopsAt rest more ∧ stop = taken.flatten.length + more := by
  constructor
  · rintro ⟨first, hFirst, rfl⟩
    rcases List.prefix_or_prefix_of_prefix hFirst (List.prefix_append taken rest) with hIn | ⟨more, rfl⟩
    · have hLess := flatten_length_le hIn
      exact ⟨0, ⟨[], List.nil_prefix, rfl⟩, by omega⟩
    · refine ⟨more.flatten.length, ⟨more, (List.prefix_append_right_inj taken).mp hFirst, rfl⟩, ?_⟩
      rw [List.flatten_append, List.length_append]
  · rintro ⟨_, ⟨more, hMore, rfl⟩, rfl⟩
    refine ⟨taken ++ more, (List.prefix_append_right_inj taken).mpr hMore, ?_⟩
    rw [List.flatten_append, List.length_append]

end Xiu.ProofKit
