import Mathlib.Tactic.Common

/-! A list cut into pieces of one size, the last of which may be shorter. -/

namespace Xiu.ProofKit

variable {α : Type}

/-- The pieces of at most `size` items.  With no room for an item there is one piece. -/
def pieces (size : Nat) (items : List α) : List (List α) :=
  if _h : size = 0 ∨ items.length ≤ size then [items]
  else items.take size :: pieces size (items.drop size)
termination_by items.length
decreasing_by simp; omega

theorem pieces_last {size : Nat} {items : List α} (h : items.length ≤ size) :
    pieces size items = [items] := by
  rw [pieces, dif_pos (.inr h)]

theorem pieces_more {size : Nat} {items : List α} (hSize : 0 < size) (h : size < items.length) :
    pieces size items = items.take size :: pieces size (items.drop size) := by
  rw [pieces, dif_neg (by omega)]

theorem pieces_ne_nil (size : Nat) (items : List α) : pieces size items ≠ [] := by
  rw [pieces]
  split <;> simp

/-- Induction along the pieces. -/
theorem pieces_induct {size : Nat} (hSize : 0 < size) {motive : List α → Prop}
    (last : ∀ items, items.length ≤ size → motive items)
    (more : ∀ items, size < items.length → motive (items.drop size) → motive items)
    (items : List α) : motive items := by
  induction hn : items.length using Nat.strongRecOn generalizing items with
  | ind n ih =>
    subst hn
    by_cases h : items.length ≤ size
    · exact last items h
    · exact more items (by omega) (ih _ (by simp; omega) _ rfl)

theorem flatten_pieces {size : Nat} (hSize : 0 < size) (items : List α) :
    (pieces size items).flatten = items := by
  induction items using pieces_induct hSize with
  | last items h => simp [pieces_last h]
  | more items h ih => rw [pieces_more hSize h, List.flatten_cons, ih, List.take_append_drop]

theorem length_piece {size : Nat} (hSize : 0 < size) {items piece : List α}
    (h : piece ∈ pieces size items) : piece.length ≤ size := by
  induction items using pieces_induct hSize with
  | last items hLast =>
    rw [pieces_last hLast, List.mem_singleton] at h
    rwa [h]
  | more items hMore ih =>
    rw [pieces_more hSize hMore] at h
    rcases List.mem_cons.mp h with rfl | h
    · exact List.length_take_le ..
    · exact ih h

theorem piece_ne_nil {size : Nat} (hSize : 0 < size) {items piece : List α} (hNe : items ≠ [])
    (h : piece ∈ pieces size items) : piece ≠ [] := by
  induction items using pieces_induct hSize with
  | last items hLast =>
    rw [pieces_last hLast, List.mem_singleton] at h
    rwa [h]
  | more items hMore ih =>
    rw [pieces_more hSize hMore] at h
    rcases List.mem_cons.mp h with rfl | h
    · intro hTake
      have hLength := congrArg List.length hTake
      rw [List.length_take, List.length_nil] at hLength
      omega
    · refine ih (fun hDrop => ?_) h
      have hLength := congrArg List.length hDrop
      rw [List.length_drop, List.length_nil] at hLength
      omega

/-- More items than fit one piece make several. -/
theorem two_le_length_pieces {size : Nat} (hSize : 0 < size) {items : List α}
    (h : size < items.length) : 2 ≤ (pieces size items).length := by
  rw [pieces_more hSize h, List.length_cons]
  have := List.length_pos_iff.mpr (pieces_ne_nil size (items.drop size))
  omega

theorem length_pieces {size : Nat} (hSize : 0 < size) {items : List α} (hNe : items ≠ []) :
    (pieces size items).length = (items.length + size - 1) / size := by
  induction items using pieces_induct hSize with
  | last items h =>
    have hPos := List.length_pos_iff.mpr hNe
    rw [pieces_last h, List.length_singleton]
    exact (Nat.div_eq_of_lt_le (by omega) (by omega)).symm
  | more items h ih =>
    have hDrop : items.drop size ≠ [] := by
      intro hDrop
      have hLength := congrArg List.length hDrop
      rw [List.length_drop, List.length_nil] at hLength
      omega
    rw [pieces_more hSize h, List.length_cons, ih hDrop, List.length_drop,
      ← Nat.add_div_right _ hSize]
    congr 1
    omega

end Xiu.ProofKit
