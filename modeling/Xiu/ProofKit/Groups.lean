import Mathlib.Data.List.DropRight
import Mathlib.Data.List.ModifyLast

/-! A list that is cut before each element of a kind, and the last groups of it: together they are what
the list ends with, and when there are enough they begin with an element of the kind. -/

namespace Xiu.ProofKit

variable {α : Type} {starts : α → Bool}

/-- An element opens a group or joins the last one. -/
def addTo (starts : α → Bool) (groups : List (List α)) (a : α) : List (List α) :=
  if starts a then groups ++ [[a]] else groups.modifyLast (· ++ [a])

/-- The groups of a list: the first one comes before any element that starts a group. -/
def groups (starts : α → Bool) (l : List α) : List (List α) := l.foldl (addTo starts) [[]]

/-- A group that has been opened: its first element starts it, and no other does. -/
def Opened (starts : α → Bool) (group : List α) : Prop :=
  ∃ a rest, group = a :: rest ∧ starts a = true ∧ ∀ b ∈ rest, starts b = false

/-- What the groups of a list are. -/
structure Grouped (starts : α → Bool) (l first : List α) (opened : List (List α)) : Prop where
  flatten : first ++ opened.flatten = l
  unopened : ∀ a ∈ first, starts a = false
  opens : ∀ group ∈ opened, Opened starts group
  count : opened.length = l.countP starts

theorem groups_concat (l : List α) (a : α) :
    groups starts (l ++ [a]) = addTo starts (groups starts l) a := by
  rw [groups, List.foldl_append]
  rfl

theorem Opened.concat {group : List α} {b : α} (h : Opened starts group) (hb : starts b = false) :
    Opened starts (group ++ [b]) := by
  obtain ⟨a, rest, rfl, ha, hRest⟩ := h
  refine ⟨a, rest ++ [b], rfl, ha, ?_⟩
  rw [List.forall_mem_append]
  exact ⟨hRest, List.forall_mem_singleton.mpr hb⟩

theorem groups_grouped (l : List α) :
    ∃ first opened, groups starts l = first :: opened ∧ Grouped starts l first opened := by
  induction l using List.reverseRecOn with
  | nil => exact ⟨[], [], rfl, rfl, by simp, by simp, rfl⟩
  | append_singleton l a ih =>
    obtain ⟨first, opened, hGroups, h⟩ := ih
    rw [groups_concat, hGroups, addTo]
    by_cases ha : starts a = true
    · refine ⟨first, opened ++ [[a]], by rw [if_pos ha]; rfl, ?_, h.unopened, ?_, ?_⟩
      · rw [List.flatten_concat, ← List.append_assoc, h.flatten]
      · rw [List.forall_mem_append, List.forall_mem_singleton]
        exact ⟨h.opens, a, [], rfl, ha, by simp⟩
      · rw [List.length_append, h.count, List.countP_append, List.countP_singleton, if_pos ha]
        rfl
    · have hNot : starts a = false := by simpa using ha
      have hCount : (l ++ [a]).countP starts = l.countP starts := by
        rw [List.countP_append, List.countP_singleton, if_neg ha, Nat.add_zero]
      rw [if_neg ha]
      rcases List.eq_nil_or_concat opened with rfl | ⟨before, last, rfl⟩
      · refine ⟨first ++ [a], [], rfl, ?_, ?_, by simp, ?_⟩
        · rw [List.flatten_nil, List.append_nil, ← h.flatten, List.flatten_nil, List.append_nil]
        · rw [List.forall_mem_append, List.forall_mem_singleton]
          exact ⟨h.unopened, hNot⟩
        · rw [hCount, ← h.count]
      · have hOpened := h.opens
        have hFlatten := h.flatten
        have hLength := h.count
        rw [List.concat_eq_append] at hOpened hFlatten hLength ⊢
        rw [List.forall_mem_append, List.forall_mem_singleton] at hOpened
        refine ⟨first, before ++ [last ++ [a]], ?_, ?_, h.unopened, ?_, ?_⟩
        · exact List.modifyLast_concat _ last (first :: before)
        · rw [← hFlatten, List.flatten_concat, List.flatten_concat]
          simp only [List.append_assoc]
        · rw [List.forall_mem_append, List.forall_mem_singleton]
          exact ⟨hOpened.1, hOpened.2.concat hNot⟩
        · rw [hCount, ← hLength, List.length_append, List.length_append]
          rfl

/-! ### The last groups -/

theorem rtake_eq_self {l : List α} {n : Nat} (h : l.length ≤ n) : l.rtake n = l := by
  rw [List.rtake, Nat.sub_eq_zero_of_le h, List.drop_zero]

theorem length_rtake (l : List α) (n : Nat) : (l.rtake n).length = min n l.length := by
  rw [List.rtake, List.length_drop]
  omega

theorem rtake_suffix (l : List α) (n : Nat) : l.rtake n <:+ l := List.drop_suffix _ l

theorem rtake_cons {a : α} {l : List α} {n : Nat} (h : n ≤ l.length) :
    (a :: l).rtake n = l.rtake n := by
  rw [List.rtake, List.rtake, List.length_cons, Nat.succ_sub h, List.drop_succ_cons]

theorem modifyLast_rtake (f : α → α) (l : List α) (n : Nat) :
    (l.modifyLast f).rtake (n + 1) = (l.rtake (n + 1)).modifyLast f := by
  rcases List.eq_nil_or_concat l with rfl | ⟨before, last, rfl⟩
  · rw [List.rtake_nil]
    exact List.rtake_nil _
  · rw [List.concat_eq_append, List.modifyLast_concat, List.rtake_concat_succ,
      List.rtake_concat_succ, List.modifyLast_concat]

theorem countP_flatten_opened {opened : List (List α)} (h : ∀ group ∈ opened, Opened starts group) :
    opened.flatten.countP starts = opened.length := by
  induction opened with
  | nil => rfl
  | cons group opened ih =>
    rw [List.forall_mem_cons] at h
    obtain ⟨⟨a, rest, rfl, ha, hRest⟩, hOpened⟩ := h
    have hNone : rest.countP starts = 0 := List.countP_eq_zero.mpr fun b hb => by simp [hRest b hb]
    rw [List.flatten_cons, List.countP_append, List.countP_cons_of_pos ha, hNone, ih hOpened,
      List.length_cons, Nat.zero_add, Nat.add_comm]

/-- The last groups begin with an element that starts a group and has as many such elements behind it
as there are groups behind the first of them. -/
theorem rtake_groups {l : List α} {n : Nat} (hPos : 0 < n) (h : n ≤ l.countP starts) :
    ∃ before a after, l = before ++ a :: after ∧ starts a = true ∧
      after.countP starts = n - 1 ∧ ((groups starts l).rtake n).flatten = a :: after := by
  obtain ⟨first, opened, hGroups, hGrouped⟩ := groups_grouped l
  have hLength : n ≤ opened.length := hGrouped.count ▸ h
  have hWindow : ∀ group ∈ opened.rtake n, Opened starts group := fun group hMem =>
    hGrouped.opens group ((rtake_suffix opened n).subset hMem)
  have hCount := countP_flatten_opened hWindow
  rw [length_rtake, Nat.min_eq_left hLength] at hCount
  obtain ⟨before, hBefore⟩ := rtake_suffix opened n
  rw [hGroups, rtake_cons hLength]
  cases hRest : opened.rtake n with
  | nil =>
    rw [hRest] at hCount
    exact absurd hCount (by simp; omega)
  | cons group rest =>
    obtain ⟨a, tail, rfl, ha, -⟩ := hWindow group (hRest ▸ List.mem_cons_self)
    rw [hRest] at hCount hBefore
    refine ⟨first ++ before.flatten, a, tail ++ rest.flatten, ?_, ha, ?_, rfl⟩
    · rw [← hGrouped.flatten, ← hBefore, List.flatten_append, List.flatten_cons, List.append_assoc]
      rfl
    · rw [List.flatten_cons, List.cons_append, List.countP_cons_of_pos ha] at hCount
      omega

end Xiu.ProofKit
