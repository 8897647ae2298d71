import Xiu.Common.Text
import Mathlib.Data.List.DropRight
import Mathlib.Data.List.TakeDrop
import Mathlib.Data.List.TakeWhile

/-! What the parsers find in a text that has been put together from its pieces. -/

namespace Xiu.Common

/-! ### Numbers -/

theorem toDigits_head (n : Nat) : (Nat.toDigits 10 n).head? ≠ some '+' := by
  intro h
  have hDigit := Nat.isDigit_of_mem_toDigits (by decide) (by decide) (List.mem_of_head? h)
  exact absurd hDigit (by decide)

theorem not_mem_toDigits {c : Char} (h : c.isDigit = false) (n : Nat) : c ∉ Nat.toDigits 10 n := by
  intro hMem
  rw [Nat.isDigit_of_mem_toDigits (by decide) (by decide) hMem] at h
  cases h

theorem parseUnsigned_toDigits {size n : Nat} (h : n < size) :
    parseUnsigned size (Nat.toDigits 10 n) = some n := by
  have hDigits : (Nat.toDigits 10 n).all Char.isDigit = true :=
    List.all_eq_true.mpr fun c hc => Nat.isDigit_of_mem_toDigits (by decide) (by decide) hc
  have hValue : (Nat.toDigits 10 n).foldl (fun n c => 10 * n + (c.toNat - 48)) 0 = n :=
    Nat.ofDigitChars_ten_toDigits
  have hSome : (Nat.toDigits 10 n).isEmpty = false := List.isEmpty_eq_false_iff.mpr Nat.toDigits_ne_nil
  simp only [parseUnsigned, if_neg (toDigits_head n), hSome, hDigits, hValue, h, Bool.not_true,
    Bool.or_self, Bool.false_eq_true, if_false, if_true]

/-- A number that has been read is in range. -/
theorem lt_of_parseUnsigned {size n : Nat} {text : List Char} (h : parseUnsigned size text = some n) :
    n < size := by
  simp only [parseUnsigned, Option.ite_none_left_eq_some, Option.ite_none_right_eq_some,
    Option.some.injEq] at h
  obtain ⟨-, hLt, rfl⟩ := h
  exact hLt

theorem getD_parseUnsigned_lt {size : Nat} (hSize : 0 < size) (text : List Char) :
    (parseUnsigned size text).getD 0 < size := by
  cases h : parseUnsigned size text with
  | none => exact hSize
  | some n => exact lt_of_parseUnsigned h

/-- A text in an interpolated text. -/
@[simp] theorem toString_text (text : String) : toString text = text := rfl

/-! ### Separators -/

variable {sep : Char} {first : List Char}

theorem splitn2_append (h : sep ∉ first) (rest : List Char) :
    splitn2 sep (first ++ sep :: rest) = (first, some rest) := by
  have hSpan : (first ++ sep :: rest).span (· ≠ sep) = (first, sep :: rest) := by
    rw [List.span_eq_takeWhile_dropWhile, List.takeWhile_append_of_pos, List.dropWhile_append_of_pos,
      List.takeWhile_cons_of_neg (by simp), List.dropWhile_cons_of_neg (by simp), List.append_nil]
    all_goals
      intro c hc
      simpa using fun hEq : c = sep => h (hEq ▸ hc)
  rw [splitn2, hSpan]

theorem splitn2_of_not_mem (h : sep ∉ first) : splitn2 sep first = (first, none) := by
  have hSpan : first.span (· ≠ sep) = (first, []) := by
    rw [List.span_eq_takeWhile_dropWhile, List.takeWhile_eq_self_iff.mpr,
      List.dropWhile_eq_nil_iff.mpr]
    all_goals
      intro c hc
      simpa using fun hEq : c = sep => h (hEq ▸ hc)
  rw [splitn2, hSpan]

/-- What `splitn(2, sep)` finds makes up the text. -/
theorem splitn2_some {text rest : List Char} (h : splitn2 sep text = (first, some rest)) :
    text = first ++ sep :: rest ∧ sep ∉ first := by
  have hNot : sep ∉ text.takeWhile (· ≠ sep) := by
    intro hMem
    simpa using List.mem_takeWhile_imp hMem
  rw [splitn2, List.span_eq_takeWhile_dropWhile] at h
  cases hDrop : text.dropWhile (· ≠ sep) with
  | nil =>
    rw [hDrop] at h
    cases h
  | cons c rest' =>
    rw [hDrop] at h
    cases h
    have hSep : c = sep := by
      have hHead := List.head?_dropWhile_not (· ≠ sep) text
      rw [hDrop] at hHead
      simpa using hHead
    refine ⟨?_, hNot⟩
    rw [← hSep, ← hDrop, hSep, List.takeWhile_append_dropWhile]

theorem splitn2_none {text : List Char} (h : splitn2 sep text = (first, none)) :
    text = first ∧ sep ∉ first := by
  rw [splitn2, List.span_eq_takeWhile_dropWhile] at h
  cases hDrop : text.dropWhile (· ≠ sep) with
  | nil =>
    rw [hDrop] at h
    cases h
    refine ⟨?_, fun hMem => by simpa using List.mem_takeWhile_imp hMem⟩
    exact (List.takeWhile_eq_self_iff.mpr (List.dropWhile_eq_nil_iff.mp hDrop)).symm
  | cons c rest' =>
    rw [hDrop] at h
    cases h

/-- The pieces of a text are of its characters, and none of them is a separator. -/
theorem of_mem_splitOnP {p : Char → Bool} {piece text : List Char} (h : piece ∈ text.splitOnP p) :
    ∀ c ∈ piece, p c = false ∧ c ∈ text := by
  induction text generalizing piece with
  | nil =>
    obtain rfl := List.mem_singleton.mp h
    simp
  | cons d text ih =>
    obtain ⟨first, rest, hSplit⟩ := List.exists_cons_of_ne_nil (List.splitOnP_ne_nil p text)
    have hRest (piece') (hMem : piece' ∈ first :: rest) (c) (hc : c ∈ piece') :
        p c = false ∧ c ∈ d :: text := by
      obtain ⟨hNot, hIn⟩ := ih (hSplit ▸ hMem) c hc
      exact ⟨hNot, List.mem_cons_of_mem d hIn⟩
    rw [List.splitOnP_cons_eq_if_modifyHead, hSplit] at h
    split at h
    · rcases List.mem_cons.mp h with rfl | hMem
      · simp
      · exact hRest piece hMem
    · rename_i hNot
      rw [List.modifyHead_cons] at h
      rcases List.mem_cons.mp h with rfl | hMem
      · intro c hc
        rcases List.mem_cons.mp hc with rfl | hIn
        · exact ⟨Bool.eq_false_iff.mpr hNot, List.mem_cons_self⟩
        · exact hRest first List.mem_cons_self c hIn
      · exact hRest piece (List.mem_cons_of_mem first hMem)

theorem scanf_append (h : sep ∉ first) {second : List Char} (hSecond : sep ∉ second) :
    scanf (first ++ sep :: second) sep = (some first, some second) := by
  rw [scanf, List.splitOn_append_cons_self_of_not_mem h, List.splitOn_eq_singleton hSecond]
  rfl

theorem scanf_of_not_mem (h : sep ∉ first) : scanf first sep = (some first, none) := by
  rw [scanf, List.splitOn_eq_singleton h]
  rfl

/-- What `scanf!` finds first ends at the first separator. -/
theorem scanf_cases (sep : Char) (text : List Char) :
    (sep ∉ text ∧ scanf text sep = (some text, none)) ∨
      ∃ first rest second, text = first ++ sep :: rest ∧ sep ∉ first ∧
        scanf text sep = (some first, some second) := by
  rcases hSplit : splitn2 sep text with ⟨first, _ | rest⟩
  · obtain ⟨rfl, hNot⟩ := splitn2_none hSplit
    exact .inl ⟨hNot, scanf_of_not_mem hNot⟩
  · obtain ⟨rfl, hNot⟩ := splitn2_some hSplit
    obtain ⟨second, more, hRest⟩ := List.exists_cons_of_ne_nil (List.splitOn_ne_nil sep rest)
    refine .inr ⟨first, rest, second, rfl, hNot, ?_⟩
    rw [scanf, List.splitOn_append_cons_self_of_not_mem hNot, hRest]
    rfl

/-! ### Patterns -/

/-- A pattern is not found where its first character is not. -/
theorem find_append_of_not_mem {c : Char} {pattern text : List Char} (h : c ∉ text) (more : List Char) :
    find (c :: pattern) (text ++ more) = (find (c :: pattern) more).map (· + text.length) := by
  induction text with
  | nil => simp
  | cons d text ih =>
    have hFirst : ¬(c :: pattern).isPrefixOf (d :: (text ++ more)) = true := by
      intro hPrefix
      obtain ⟨rest, hRest⟩ := List.isPrefixOf_iff_prefix.mp hPrefix
      exact h ((List.cons.inj hRest).1 ▸ List.mem_cons_self)
    rw [List.cons_append, find, if_neg hFirst, ih fun hMem => h (List.mem_cons_of_mem _ hMem),
      Option.map_map, List.length_cons]
    congr 1

theorem find_self (pattern more : List Char) : find pattern (pattern ++ more) = some 0 := by
  cases pattern with
  | nil => cases more <;> rfl
  | cons c pattern =>
    exact if_pos (List.isPrefixOf_iff_prefix.mpr (List.prefix_append (c :: pattern) more))

/-- A character is found where it stands first. -/
theorem find_char {c : Char} {text : List Char} {i : Nat} (h : find [c] text = some i) :
    ∃ first rest, text = first ++ c :: rest ∧ c ∉ first ∧ i = first.length := by
  induction text generalizing i with
  | nil => cases h
  | cons d text ih =>
    rw [find] at h
    split at h
    · rename_i hFirst
      cases h
      obtain ⟨more, hMore⟩ := List.isPrefixOf_iff_prefix.mp hFirst
      exact ⟨[], more, hMore.symm, List.not_mem_nil, rfl⟩
    · rename_i hNot
      obtain ⟨j, hj, rfl⟩ := Option.map_eq_some_iff.mp h
      obtain ⟨first, rest, rfl, hFirst, rfl⟩ := ih hj
      refine ⟨d :: first, rest, rfl, ?_, rfl⟩
      rw [List.mem_cons, not_or]
      exact ⟨fun hEq => hNot (by simp [hEq]), hFirst⟩

/-- A colon and a space are found behind a text without them. -/
theorem find_colon {name : List Char} (h : find [':', ' '] name = none) (value : List Char) :
    find [':', ' '] (name ++ ':' :: ' ' :: value) = some name.length := by
  induction name with
  | nil => rfl
  | cons c name ih =>
    rw [find] at h
    split at h
    · cases h
    · rename_i hNot
      have hFirst : ¬[':', ' '].isPrefixOf (c :: (name ++ ':' :: ' ' :: value)) = true := by
        intro hPrefix
        apply hNot
        cases name with
        | nil => simp at hPrefix
        | cons d name => simpa using hPrefix
      rw [List.cons_append, find, if_neg hFirst, ih (Option.map_eq_none_iff.mp h), List.length_cons]
      rfl

/-! ### Words -/

theorem splitAsciiWhitespace_append {word : List Char} (h : ∀ c ∈ word, isAsciiWhitespace c = false)
    (rest : List Char) : splitAsciiWhitespace (word ++ ' ' :: rest) =
      (if word = [] then [] else [word]) ++ splitAsciiWhitespace rest := by
  rw [splitAsciiWhitespace, List.splitOnP_append_cons_of_forall_mem h ' ' (by decide), List.filter_cons,
    splitAsciiWhitespace]
  cases word <;> rfl

theorem splitAsciiWhitespace_word {word : List Char} (h : ∀ c ∈ word, isAsciiWhitespace c = false) :
    splitAsciiWhitespace word = if word = [] then [] else [word] := by
  rw [splitAsciiWhitespace, List.splitOnP_eq_singleton h]
  cases word <;> rfl

/-- There is no white space in a word. -/
theorem isAsciiWhitespace_of_mem_word {word text : List Char} (h : word ∈ splitAsciiWhitespace text) :
    ∀ c ∈ word, isAsciiWhitespace c = false :=
  fun c hMem => (of_mem_splitOnP (List.mem_filter.mp h).1 c hMem).1

/-! ### Maps -/

/-- Two maps with the same entries: maps are compared without its order. -/
abbrev IndexMap.Same {ν : Type} (map map' : IndexMap ν) : Prop := List.Perm map map'

theorem insert_of_not_mem {map : IndexMap String} {name : String} (value : String)
    (h : name ∉ map.map (·.1)) : IndexMap.insert map name value = map ++ [(name, value)] :=
  if_neg h

/-- Where a name does not occur nothing is set or left out. -/
theorem eq_self_of_not_mem {map : IndexMap String} {name : String} (value : String)
    (h : name ∉ map.map (·.1)) :
    map.filter (·.1 ≠ name) = map ∧
      map.map (fun p => if p.1 = name then (name, value) else p) = map := by
  have hOther : ∀ entry ∈ map, entry.1 ≠ name := fun entry hMem hEq =>
    h (hEq ▸ List.mem_map_of_mem hMem)
  refine ⟨List.filter_eq_self.mpr fun entry hMem => by simpa using hOther entry hMem, ?_⟩
  calc map.map (fun p => if p.1 = name then (name, value) else p)
      = map.map id := List.map_congr_left fun entry hMem => if_neg (hOther entry hMem)
    _ = map := List.map_id map

/-- An entry that is set is one entry, in its old place or behind the others. -/
theorem same_insert {map : IndexMap String} (h : (map.map (·.1)).Nodup) (name value : String) :
    List.Perm (map.filter (·.1 ≠ name) ++ [(name, value)]) (IndexMap.insert map name value) := by
  by_cases hMem : name ∈ map.map (·.1)
  · rw [IndexMap.insert, if_pos hMem]
    obtain ⟨entry, hEntry, rfl⟩ := List.mem_map.mp hMem
    obtain ⟨before, behind, rfl⟩ := List.append_of_mem hEntry
    rw [List.map_append, List.map_cons, List.nodup_append, List.nodup_cons] at h
    obtain ⟨-, ⟨hBehind, -⟩, hDisjoint⟩ := h
    have hBefore : entry.1 ∉ before.map (·.1) := fun hIn => hDisjoint _ hIn _ List.mem_cons_self rfl
    obtain ⟨hLeft, hSet⟩ := eq_self_of_not_mem value hBefore
    obtain ⟨hLeft', hSet'⟩ := eq_self_of_not_mem value hBehind
    rw [List.filter_append, List.filter_cons_of_neg (by simp), hLeft, hLeft', List.map_append, List.map_cons,
      hSet, hSet', if_pos rfl, List.append_assoc]
    exact (List.perm_append_singleton _ behind).append_left before
  · rw [insert_of_not_mem value hMem, (eq_self_of_not_mem value hMem).1]

/-! ### Characters that do not occur -/

/-- A text in which none of some characters occurs. -/
def Free (seps text : List Char) : Prop := ∀ c ∈ text, c ∉ seps

instance (seps text : List Char) : Decidable (Free seps text) :=
  List.decidableBAll (fun c => c ∉ seps) text

theorem free_nil (seps : List Char) : Free seps [] := List.forall_mem_nil _

theorem Free.subset {seps text part : List Char} (h : Free seps text) (hPart : part ⊆ text) :
    Free seps part := fun c hMem => h c (hPart hMem)

theorem Free.append {seps first second : List Char} (h : Free seps first) (h' : Free seps second) :
    Free seps (first ++ second) := List.forall_mem_append.mpr ⟨h, h'⟩

theorem Free.cons {seps text : List Char} {c : Char} (hc : c ∉ seps) (h : Free seps text) :
    Free seps (c :: text) := List.forall_mem_cons.mpr ⟨hc, h⟩

theorem Free.weaken {seps seps' text : List Char} (h : Free seps text) (hSeps : seps' ⊆ seps) :
    Free seps' text := fun c hMem hSep => h c hMem (hSeps hSep)

theorem Free.with {seps text : List Char} (h : Free seps text) {sep : Char} (hSep : sep ∉ text) :
    Free (sep :: seps) text := by
  intro c hMem hIn
  rcases List.mem_cons.mp hIn with rfl | hOld
  · exact hSep hMem
  · exact h c hMem hOld

theorem Free.not_mem {seps text : List Char} {sep : Char} (h : Free seps text) (hSep : sep ∈ seps) :
    sep ∉ text := fun hMem => h sep hMem hSep

/-- A piece between separators is free of them too. -/
theorem Free.piece {seps text piece : List Char} {sep : Char} (h : Free seps text)
    (hPiece : piece ∈ text.splitOn sep) : Free (sep :: seps) piece := by
  intro c hMem hSep
  rw [List.splitOn_eq_splitOnP] at hPiece
  obtain ⟨hNot, hIn⟩ := of_mem_splitOnP hPiece c hMem
  rcases List.mem_cons.mp hSep with rfl | hOld
  · simp at hNot
  · exact h c hIn hOld

theorem Free.intercalate {seps : List Char} {sep : Char} {pieces : List (List Char)} (hSep : sep ∉ seps)
    (h : ∀ piece ∈ pieces, Free seps piece) : Free seps ([sep].intercalate pieces) := by
  induction pieces with
  | nil => exact free_nil seps
  | cons first rest ih =>
    rw [List.forall_mem_cons] at h
    cases rest with
    | nil => simpa using h.1
    | cons next rest =>
      rw [List.intercalate_cons_cons]
      exact (h.1.append ((free_nil seps).cons hSep)).append (ih h.2)

theorem free_toDigits {seps : List Char} (h : seps.all fun c => !c.isDigit) (n : Nat) :
    Free seps (Nat.toDigits 10 n) := fun c hMem hSep =>
  not_mem_toDigits (Bool.not_eq_true' _ ▸ List.all_eq_true.mp h c hSep) n hMem

/-! ### White space at the end -/

/-- A text that does not end with white space. -/
def EndsSolid (text : List Char) : Prop := ∀ c, text.getLast? = some c → isWhitespace c = false

theorem endsSolid_nil : EndsSolid [] := by
  intro c h
  cases h

theorem endsSolid_iff (text : List Char) : EndsSolid text ↔ text.rdropWhile isWhitespace = text := by
  rw [List.rdropWhile_eq_self_iff]
  constructor
  · intro h hSome
    rw [h _ (List.getLast?_eq_some_getLast hSome)]
    decide
  · intro h c hLast
    have hSome : text ≠ [] := by
      rintro rfl
      cases hLast
    rw [List.getLast?_eq_some_getLast hSome, Option.some.injEq] at hLast
    exact Bool.eq_false_iff.mpr (hLast ▸ h hSome)

theorem endsSolid_rdropWhile (text : List Char) : EndsSolid (text.rdropWhile isWhitespace) := by
  rw [endsSolid_iff, List.rdropWhile_idempotent]

/-- White space at the end is behind what does not end with it. -/
theorem rdropWhile_append {first : List Char} (h : EndsSolid first) (rest : List Char) :
    (first ++ rest).rdropWhile isWhitespace = first ++ rest.rdropWhile isWhitespace := by
  induction rest using List.reverseRecOn with
  | nil => rw [List.append_nil, List.rdropWhile_nil, List.append_nil, (endsSolid_iff first).mp h]
  | append_singleton rest c ih =>
    rw [← List.append_assoc, List.rdropWhile_concat, List.rdropWhile_concat, ih]
    split <;> simp

theorem rdropWhile_space {c : Char} (hc : isWhitespace c = true) (text : List Char) :
    (c :: text).rdropWhile isWhitespace =
      if text.rdropWhile isWhitespace = [] then [] else c :: text.rdropWhile isWhitespace := by
  induction text using List.reverseRecOn with
  | nil => simp [List.rdropWhile, hc]
  | append_singleton text d ih =>
    rw [← List.cons_append, List.rdropWhile_concat, List.rdropWhile_concat]
    split
    · exact ih
    · simp

/-- What is joined ends with its last piece. -/
theorem intercalate_concat (sep : Char) (pieces : List (List Char)) (last : List Char) :
    ∃ first, [sep].intercalate (pieces ++ [last]) = first ++ last := by
  induction pieces with
  | nil => exact ⟨[], by simp⟩
  | cons piece pieces ih =>
    obtain ⟨first, hFirst⟩ := ih
    refine ⟨piece ++ [sep] ++ first, ?_⟩
    rw [List.cons_append, List.intercalate_cons_of_ne_nil (by simp), hFirst, ← List.append_assoc]

theorem EndsSolid.right {first second : List Char} (h : EndsSolid (first ++ second)) : EndsSolid second := by
  intro c hLast
  refine h c ?_
  rw [List.getLast?_append, hLast]
  rfl

theorem EndsSolid.append {first second : List Char} (h : EndsSolid second) (hSome : second ≠ []) :
    EndsSolid (first ++ second) := by
  intro c hLast
  rw [List.getLast?_append_of_ne_nil _ hSome] at hLast
  exact h c hLast

theorem EndsSolid.cons {c : Char} {text : List Char} (hc : isWhitespace c = false) (h : EndsSolid text) :
    EndsSolid (c :: text) := by
  intro d hLast
  cases text with
  | nil =>
    cases hLast
    exact hc
  | cons e text => exact h d (by rwa [List.getLast?_cons_cons] at hLast)

theorem EndsSolid.cons_of_ne_nil {c : Char} {text : List Char} (h : EndsSolid text) (hSome : text ≠ []) :
    EndsSolid (c :: text) := @EndsSolid.append [c] text h hSome

theorem isWhitespace_of_isAlphanum {c : Char} (h : c.isAlphanum = true) : isWhitespace c = false := by
  have hUpper (hc : c.isUpper = true) : 65 ≤ c.toNat ∧ c.toNat ≤ 90 := by
    obtain ⟨hLow, hHigh⟩ := of_decide_eq_true hc
    exact ⟨UInt32.le_iff_toNat_le.mp hLow, UInt32.le_iff_toNat_le.mp hHigh⟩
  have hBetween {low high : UInt32} (hc : (decide (low ≤ c.val) && decide (c.val ≤ high)) = true) :
      low.toNat ≤ c.toNat ∧ c.toNat ≤ high.toNat := by
    rw [Bool.and_eq_true, decide_eq_true_eq, decide_eq_true_eq] at hc
    exact ⟨UInt32.le_iff_toNat_le.mp hc.1, UInt32.le_iff_toNat_le.mp hc.2⟩
  have hNat : (65 ≤ c.toNat ∧ c.toNat ≤ 90 ∨ 97 ≤ c.toNat ∧ c.toNat ≤ 122) ∨
      48 ≤ c.toNat ∧ c.toNat ≤ 57 := by
    rcases Bool.or_eq_true_iff.mp h with hAlpha | hDigit
    · rcases Bool.or_eq_true_iff.mp hAlpha with hc | hc
      · exact .inl (.inl (hUpper hc))
      · exact .inl (.inr (hBetween hc))
    · exact .inr (hBetween hDigit)
  simp [isWhitespace]
  omega

theorem endsSolid_toDigits (n : Nat) : EndsSolid (Nat.toDigits 10 n) := by
  intro c hLast
  have hDigit := Nat.isDigit_of_mem_toDigits (by decide) (by decide) (List.mem_of_getLast? hLast)
  exact isWhitespace_of_isAlphanum (Bool.or_eq_true_iff.mpr (.inr hDigit))

/-- A text that begins with something else than white space is trimmed at its end only. -/
theorem trim_cons {c : Char} (h : isWhitespace c = false) (text : List Char) :
    trim (c :: text) = (c :: text).rdropWhile isWhitespace := by
  rw [trim, List.dropWhile_cons_of_neg (by simp [h])]
  rfl

theorem endsSolid_trim (text : List Char) : EndsSolid (trim text) := endsSolid_rdropWhile _

theorem trim_subset (text : List Char) : trim text ⊆ text := by
  intro c hMem
  rw [trim, List.mem_reverse] at hMem
  have hIn := (List.dropWhile_suffix isWhitespace).subset hMem
  exact (List.dropWhile_suffix isWhitespace).subset (List.mem_reverse.mp hIn)

/-! ### Lines -/

/-- Lines, each with its end. -/
def withEnds (texts : List (List Char)) : List Char := texts.flatMap (· ++ ['\r', '\n'])

theorem withEnds_append (texts texts' : List (List Char)) :
    withEnds (texts ++ texts') = withEnds texts ++ withEnds texts' := List.flatMap_append

/-- Lines with the ends between them. -/
def joined : List (List Char) → List Char
  | [] => []
  | [line] => line
  | line :: next :: texts => line ++ '\r' :: '\n' :: joined (next :: texts)

theorem joined_cons (line next : List Char) (texts : List (List Char)) :
    joined (line :: next :: texts) = line ++ '\r' :: '\n' :: joined (next :: texts) := rfl

theorem withEnds_eq {texts : List (List Char)} (h : texts ≠ []) :
    withEnds texts = joined texts ++ ['\r', '\n'] := by
  induction texts with
  | nil => exact absurd rfl h
  | cons line texts ih =>
    cases texts with
    | nil => exact List.append_nil _
    | cons next texts =>
      rw [withEnds, List.flatMap_cons, ← withEnds, ih (List.cons_ne_nil _ _), joined_cons]
      simp

/-- Lines that end nowhere but at their ends, with something in them. -/
structure IsLine (line : List Char) : Prop where
  some : line ≠ []
  cr : '\r' ∉ line
  lf : '\n' ∉ line

/-- The first empty line is the one behind the lines. -/
theorem find_emptyLine {texts : List (List Char)} (hSome : texts ≠ [])
    (h : ∀ line ∈ texts, IsLine line) (body : List Char) :
    find ['\r', '\n', '\r', '\n'] (joined texts ++ '\r' :: '\n' :: '\r' :: '\n' :: body) =
      some (joined texts).length := by
  induction texts with
  | nil => exact absurd rfl hSome
  | cons line texts ih =>
    have hLine := h line List.mem_cons_self
    cases texts with
    | nil =>
      have hSelf := find_self ['\r', '\n', '\r', '\n'] body
      rw [joined, find_append_of_not_mem hLine.cr]
      simp only [List.cons_append, List.nil_append] at hSelf
      rw [hSelf]
      simp
    | cons next texts =>
      have hNext := h next (List.mem_cons_of_mem _ List.mem_cons_self)
      obtain ⟨c, rest, hRest, hc⟩ : ∃ c rest, joined (next :: texts) = c :: rest ∧ c ≠ '\r' := by
        obtain ⟨c, tail, rfl⟩ := List.exists_cons_of_ne_nil hNext.some
        have hc : c ≠ '\r' := fun hEq => hNext.cr (hEq ▸ List.mem_cons_self)
        cases texts with
        | nil => exact ⟨c, tail, rfl, hc⟩
        | cons third texts => exact ⟨c, _, rfl, hc⟩
      have hRestFound := ih (List.cons_ne_nil _ _) fun line hMem => h line (List.mem_cons_of_mem _ hMem)
      rw [hRest, List.cons_append] at hRestFound
      -- the line and its end, and then the rest
      rw [joined_cons, List.append_assoc, find_append_of_not_mem hLine.cr, hRest, List.cons_append,
        List.cons_append, List.cons_append, find, if_neg (by simp [Ne.symm hc]), find, if_neg (by simp),
        hRestFound]
      simp
      omega

/-- The lines of a text are those that it has been joined of. -/
theorem lines_joined {texts : List (List Char)} (h : ∀ line ∈ texts, IsLine line) :
    lines (joined texts) = texts := by
  cases texts with
  | nil => rfl
  | cons first rest =>
    have hPieces : ((joined (first :: rest)).splitOn '\n').getLast? = (first :: rest).getLast? ∧
        ((joined (first :: rest)).splitOn '\n').map
          (fun line => if line.getLast? = some '\r' then line.dropLast else line) = first :: rest := by
      induction rest generalizing first with
      | nil =>
        have hLine := h first List.mem_cons_self
        have hLast : first.getLast? ≠ some '\r' := fun hEq => hLine.cr (List.mem_of_getLast? hEq)
        rw [joined, List.splitOn_eq_singleton hLine.lf, List.map_singleton, if_neg hLast]
        exact ⟨rfl, rfl⟩
      | cons next rest ih =>
        have hLine := h first List.mem_cons_self
        obtain ⟨hLast, hMap⟩ := ih next fun line hMem => h line (List.mem_cons_of_mem _ hMem)
        have hLf : '\n' ∉ first ++ ['\r'] := by simp [hLine.lf]
        have hSplit : (joined (first :: next :: rest)).splitOn '\n' =
            (first ++ ['\r']) :: (joined (next :: rest)).splitOn '\n' := by
          rw [joined_cons, ← List.splitOn_append_cons_self_of_not_mem hLf, List.append_assoc]
          rfl
        rw [hSplit, List.map_cons, hMap, List.getLast?_cons, hLast]
        refine ⟨?_, ?_⟩
        · simp [List.getLast?_cons]
        · rw [List.getLast?_concat, if_pos rfl, List.dropLast_concat]
    obtain ⟨hLast, hMap⟩ := hPieces
    have hSome : (first :: rest).getLast? ≠ some [] := fun hEq =>
      (h [] (List.mem_of_getLast? hEq)).some rfl
    rw [lines, hLast, if_neg hSome, hMap]

end Xiu.Common
