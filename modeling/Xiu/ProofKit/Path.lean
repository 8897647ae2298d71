import Mathlib.Data.List.DropRight
import Mathlib.Tactic.Common

/-! Paths of a file system without links: texts whose parts stand between slashes.  A path is resolved
from the folder it starts in, part by part; `.` stays, `..` goes up, and every other part goes down. -/

namespace Xiu.ProofKit.Path

/-- A part that names an entry of the folder it stands in. -/
structure Plain (part : List Char) : Prop where
  ne_nil : part ≠ []
  noSlash : '/' ∉ part
  ne_dot : part ≠ ['.']
  ne_dots : part ≠ ['.', '.']

instance (part : List Char) : Decidable (Plain part) :=
  decidable_of_iff (part ≠ [] ∧ '/' ∉ part ∧ part ≠ ['.'] ∧ part ≠ ['.', '.'])
    ⟨fun h => ⟨h.1, h.2.1, h.2.2.1, h.2.2.2⟩, fun h => ⟨h.1, h.2, h.3, h.4⟩⟩

/-- A folder, by the parts that lead to it from the root. -/
structure Folder where
  parts : List (List Char)
  plain : ∀ part ∈ parts, Plain part

/-- Where a part leads. -/
def enter (parts : List (List Char)) (part : List Char) : List (List Char) :=
  if part = [] ∨ part = ['.'] then parts
  else if part = ['.', '.'] then parts.dropLast
  else parts ++ [part]

/-- Where a path leads from a folder. -/
def resolve (cwd : Folder) (path : List Char) : List (List Char) :=
  (path.splitOn '/').foldl enter (if path.head? = some '/' then [] else cwd.parts)

/-- The file lies in the folder, or in a folder in it. -/
def Inside (folder file : List (List Char)) : Prop := ∃ rest, rest ≠ [] ∧ file = folder ++ rest

/-- A path up to its last slash, and what stands behind it. -/
def folderPart (path : List Char) : List Char := path.rdropWhile (· ≠ '/')

def lastPart (path : List Char) : List Char := path.rtakeWhile (· ≠ '/')

theorem enter_plain {part : List Char} (h : Plain part) (parts : List (List Char)) :
    enter parts part = parts ++ [part] := by
  rw [enter, if_neg (not_or.mpr ⟨h.ne_nil, h.ne_dot⟩), if_neg h.ne_dots]

theorem plain_enter {parts : List (List Char)} {part : List Char} (h : ∀ p ∈ parts, Plain p)
    (hPart : '/' ∉ part) : ∀ p ∈ enter parts part, Plain p := by
  rw [enter]
  split
  · exact h
  split
  · exact fun p hp => h p (List.dropLast_subset _ hp)
  · rename_i hSkip hUp
    obtain ⟨hNil, hDot⟩ := not_or.mp hSkip
    exact List.forall_mem_append.mpr ⟨h, List.forall_mem_singleton.mpr ⟨hNil, hPart, hDot, hUp⟩⟩

theorem noSlash_of_mem_splitOn {path part : List Char} (h : part ∈ path.splitOn '/') :
    '/' ∉ part := by
  induction path generalizing part with
  | nil =>
    rw [List.splitOn_nil, List.mem_singleton] at h
    rw [h]
    exact List.not_mem_nil
  | cons c rest ih =>
    rw [List.splitOn_cons_eq_if_modifyHead] at h
    split at h
    · rcases List.mem_cons.mp h with rfl | hMem
      · exact List.not_mem_nil
      · exact ih hMem
    · rename_i hc
      cases hSplit : rest.splitOn '/' with
      | nil => exact absurd hSplit (List.splitOn_ne_nil _ _)
      | cons first others =>
        rw [hSplit] at h ih
        rcases List.mem_cons.mp h with rfl | hMem
        · intro hSlash
          rcases List.mem_cons.mp hSlash with rfl | hFirst
          · exact hc rfl
          · exact ih List.mem_cons_self hFirst
        · exact ih (List.mem_cons_of_mem _ hMem)

/-- A path leads to a folder or a file that plain parts lead to from the root. -/
theorem plain_resolve (cwd : Folder) (path : List Char) : ∀ p ∈ resolve cwd path, Plain p := by
  have hAll : ∀ (parts start : List (List Char)), (∀ p ∈ parts, '/' ∉ p) →
      (∀ p ∈ start, Plain p) → ∀ p ∈ parts.foldl enter start, Plain p := by
    intro parts
    induction parts with
    | nil => exact fun start _ hStart => hStart
    | cons part rest ih =>
      intro start hParts hStart
      exact ih (enter start part) (fun p hp => hParts p (List.mem_cons_of_mem _ hp))
        (plain_enter hStart (hParts part List.mem_cons_self))
  refine hAll _ _ (fun p hp => noSlash_of_mem_splitOn hp) ?_
  split
  · exact fun p hp => absurd hp List.not_mem_nil
  · exact cwd.plain

/-- A file in a folder makes the parts of the folder plain. -/
theorem plain_of_inside {cwd : Folder} {folder : List (List Char)} {path : List Char}
    (h : Inside folder (resolve cwd path)) : ∀ p ∈ folder, Plain p := by
  obtain ⟨rest, -, hEq⟩ := h
  intro p hp
  exact plain_resolve cwd path p (hEq ▸ List.mem_append_left rest hp)

/-- A plain part behind a slash leads one folder down. -/
theorem resolve_slash (cwd : Folder) {path part : List Char} (hPath : path ≠ [])
    (hPart : Plain part) : resolve cwd (path ++ '/' :: part) = resolve cwd path ++ [part] := by
  have hHead : (path ++ '/' :: part).head? = path.head? := by
    rw [List.head?_append_of_ne_nil path hPath]
  rw [resolve, hHead, List.splitOn_append_cons_self, List.foldl_append,
    List.splitOn_eq_singleton hPart.noSlash, List.foldl_cons, List.foldl_nil, enter_plain hPart]
  rfl

theorem folderPart_append_lastPart (path : List Char) : folderPart path ++ lastPart path = path :=
  List.rdropWhile_append_rtakeWhile

theorem folderPart_cases (path : List Char) :
    folderPart path = [] ∨ ∃ start, folderPart path = start ++ ['/'] := by
  by_cases h : folderPart path = []
  · exact .inl h
  · right
    have hLast := List.rdropWhile_last_not (· ≠ '/') path h
    have hSlash : (folderPart path).getLast h = '/' := by
      by_contra hNot
      exact hLast (decide_eq_true hNot)
    exact ⟨(folderPart path).dropLast, by rw [← hSlash, List.dropLast_append_getLast]⟩

/-- What is written behind a path lengthens its last part. -/
theorem resolve_append (cwd : Folder) {path part : List Char} (h : Plain (lastPart path ++ part)) :
    resolve cwd (path ++ part) = resolve cwd (folderPart path) ++ [lastPart path ++ part] := by
  have hPath : path ++ part = folderPart path ++ (lastPart path ++ part) := by
    rw [← List.append_assoc, folderPart_append_lastPart]
  rw [hPath]
  rcases folderPart_cases path with hNil | ⟨start, hStart⟩
  · have hHead : (lastPart path ++ part).head? ≠ some '/' := fun hHead =>
      h.noSlash (List.mem_of_mem_head? hHead)
    rw [hNil, List.nil_append, resolve, if_neg hHead, List.splitOn_eq_singleton h.noSlash,
      List.foldl_cons, List.foldl_nil, enter_plain h]
    rfl
  · have hHead : (start ++ '/' :: (lastPart path ++ part)).head? = (start ++ ['/']).head? := by
      cases start <;> rfl
    rw [hStart, List.append_assoc, List.singleton_append, resolve, resolve, hHead,
      List.splitOn_append_cons_self, List.splitOn_append_cons_self, List.foldl_append,
      List.foldl_append, List.splitOn_eq_singleton h.noSlash, List.foldl_cons, List.foldl_nil,
      enter_plain h]
    rfl

end Xiu.ProofKit.Path
