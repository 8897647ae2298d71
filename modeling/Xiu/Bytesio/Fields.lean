import Xiu.Bytesio.Reading

/-! Readers that take fields of given widths one after the other, and what they leave in the reader when
the bytes end before the fields do. -/

namespace Xiu.Bytesio

open ProofKit Read

variable {τ α β : Type}

/-! ### Widths -/

/-- What is left of some items when parts of these widths are taken from the front, up to the first part
that is not all there. -/
def leftOf : List Nat → List α → List α
  | [], items => items
  | width :: widths, items => if items.length < width then items else leftOf widths (items.drop width)

/-- So many items end where a part does, or before the first one. -/
def EndsPart (widths : List Nat) (length : Nat) : Prop := ∃ before, before <+: widths ∧ before.sum = length

variable {widths widths' : List Nat} {items : List α}

theorem leftOf_of_le (h : widths.sum ≤ items.length) : leftOf widths items = items.drop widths.sum := by
  induction widths generalizing items with
  | nil => rfl
  | cons width widths ih =>
    rw [List.sum_cons] at h ⊢
    rw [leftOf, if_neg (by omega), ih (by rw [List.length_drop]; omega), List.drop_drop]

theorem leftOf_append_of_le (h : widths.sum ≤ items.length) :
    leftOf (widths ++ widths') items = leftOf widths' (items.drop widths.sum) := by
  induction widths generalizing items with
  | nil => rfl
  | cons width widths ih =>
    rw [List.sum_cons] at h ⊢
    rw [List.cons_append, leftOf, if_neg (by omega), ih (by rw [List.length_drop]; omega), List.drop_drop]

theorem leftOf_append_of_lt (h : items.length < widths.sum) :
    leftOf (widths ++ widths') items = leftOf widths items := by
  induction widths generalizing items with
  | nil => exact absurd h (Nat.not_lt_zero _)
  | cons width widths ih =>
    rw [List.sum_cons] at h
    rw [List.cons_append, leftOf, leftOf]
    by_cases hShort : items.length < width
    · rw [if_pos hShort, if_pos hShort]
    · rw [if_neg hShort, if_neg hShort, ih (by rw [List.length_drop]; omega)]

/-- Nothing is left exactly when the items end where a part does. -/
theorem leftOf_eq_nil_iff : leftOf widths items = [] ↔ EndsPart widths items.length := by
  induction widths generalizing items with
  | nil =>
    rw [leftOf]
    constructor
    · rintro rfl
      exact ⟨[], List.prefix_rfl, rfl⟩
    · rintro ⟨before, hBefore, hSum⟩
      rw [List.prefix_nil.mp hBefore] at hSum
      exact List.eq_nil_of_length_eq_zero hSum.symm
  | cons width widths ih =>
    rw [leftOf]
    split
    · rename_i hShort
      constructor
      · rintro rfl
        exact ⟨[], List.nil_prefix, rfl⟩
      · rintro ⟨before, hBefore, hSum⟩
        rcases List.prefix_cons_iff.mp hBefore with rfl | ⟨before, rfl, -⟩
        · exact List.eq_nil_of_length_eq_zero hSum.symm
        · rw [List.sum_cons] at hSum
          omega
    · rename_i hLong
      rw [ih, List.length_drop]
      constructor
      · rintro ⟨before, hBefore, hSum⟩
        refine ⟨width :: before, List.cons_prefix_cons.mpr ⟨rfl, hBefore⟩, ?_⟩
        rw [List.sum_cons]
        omega
      · rintro ⟨before, hBefore, hSum⟩
        rcases List.prefix_cons_iff.mp hBefore with rfl | ⟨before, rfl, hRest⟩
        · exact ⟨[], List.nil_prefix, by rw [← hSum]; exact (Nat.zero_sub width).symm⟩
        · refine ⟨before, hRest, ?_⟩
          rw [List.sum_cons] at hSum
          omega

/-! ### Fields -/

/-- The reader takes fields of these widths, and stops at the first that is not all there. -/
structure TakesFields (x : Read τ α) (widths : List Nat) (s : Reading τ) : Prop where
  whole : widths.sum ≤ s.reader.buffer.length →
    ∃ a, x s = .ok a ⟨s.owner, ⟨s.reader.buffer.drop widths.sum⟩⟩
  short : s.reader.buffer.length < widths.sum →
    x s = .error (.bytesReadError .notEnoughBytes) ⟨s.owner, ⟨leftOf widths s.reader.buffer⟩⟩

variable {x : Read τ α} {f : α → Read τ β} {s : Reading τ}

theorem takesFields_pure (a : α) (s : Reading τ) : TakesFields (pure a) [] s :=
  ⟨fun _ => ⟨a, rfl⟩, fun h => absurd h (Nat.not_lt_zero _)⟩

theorem takesFields_cursor (n : Nat) (decode : List UInt8 → α) (s : Reading τ) :
    TakesFields (read (·.readBytesCursor n decode)) [n] s := by
  obtain ⟨it, ⟨buffer⟩⟩ := s
  constructor
  · intro h
    rw [List.sum_singleton] at h ⊢
    exact ⟨_, read_cursor_ok h⟩
  · intro h
    rw [List.sum_singleton] at h
    rw [leftOf, if_pos h]
    exact read_cursor_short h

theorem takesFields_readBytes (n : Nat) (s : Reading τ) : TakesFields (readBytes n) [n] s := by
  obtain ⟨it, ⟨buffer⟩⟩ := s
  constructor
  · intro h
    rw [List.sum_singleton] at h ⊢
    exact ⟨_, readBytes_ok h⟩
  · intro h
    rw [List.sum_singleton] at h
    rw [leftOf, if_pos h]
    exact readBytes_short h

theorem cursor_eq_ok {n : Nat} {decode : List UInt8 → α} {a : α} {s' : Reading τ}
    (h : read (·.readBytesCursor n decode) s = .ok a s') :
    a = decode (s.reader.buffer.take n) ∧ s' = ⟨s.owner, ⟨s.reader.buffer.drop n⟩⟩ := by
  obtain ⟨it, ⟨buffer⟩⟩ := s
  by_cases hLong : n ≤ buffer.length
  · obtain ⟨rfl, rfl⟩ := EStateM.Result.ok.inj ((read_cursor_ok hLong).symm.trans h)
    exact ⟨rfl, rfl⟩
  · cases (read_cursor_short (Nat.not_le.mp hLong)).symm.trans h

theorem readU8_eq_ok {b : UInt8} {s' : Reading τ} (h : readU8 s = .ok b s') :
    b = s.reader.buffer.headD 0 := by
  have hTake := (cursor_eq_ok h).1
  cases hBuffer : s.reader.buffer with
  | nil =>
    rw [hBuffer] at hTake
    exact hTake
  | cons b' buffer =>
    rw [hBuffer] at hTake
    exact hTake

/-- The fields of one reader and then those of another, whose widths may depend on what has been read. -/
theorem TakesFields.bind (hx : TakesFields x widths s)
    (hf : ∀ a s', x s = .ok a s' → TakesFields (f a) widths' s') :
    TakesFields (x >>= f) (widths ++ widths') s := by
  constructor
  · intro h
    rw [List.sum_append] at h
    obtain ⟨a, hRead⟩ := hx.whole (by omega)
    obtain ⟨b, hRest⟩ := (hf _ _ hRead).whole (by rw [List.length_drop]; omega)
    refine ⟨b, ?_⟩
    rw [bind_of_ok hRead, hRest, List.drop_drop, List.sum_append]
  · intro h
    rw [List.sum_append] at h
    by_cases hShort : s.reader.buffer.length < widths.sum
    · rw [bind_of_error (hx.short hShort), leftOf_append_of_lt hShort]
    · obtain ⟨a, hRead⟩ := hx.whole (Nat.not_lt.mp hShort)
      rw [bind_of_ok hRead, (hf _ _ hRead).short (by rw [List.length_drop]; omega),
        leftOf_append_of_le (Nat.not_lt.mp hShort)]

/-- A result that is only put together of what has been read takes nothing more. -/
theorem TakesFields.bind_pure {g : α → β} (hx : TakesFields x widths s) :
    TakesFields (x >>= fun a => pure (g a)) widths s := by
  have hBind := hx.bind (f := fun a => pure (g a)) fun a s' _ => takesFields_pure (g a) s'
  rwa [List.append_nil] at hBind

/-- What is left, when the bytes end early and when they do not. -/
theorem TakesFields.left (hx : TakesFields x widths s) :
    (stateOf (x s)).reader = ⟨leftOf widths s.reader.buffer⟩ := by
  by_cases hShort : s.reader.buffer.length < widths.sum
  · rw [hx.short hShort]
    rfl
  · obtain ⟨a, hRead⟩ := hx.whole (Nat.not_lt.mp hShort)
    rw [hRead, leftOf_of_le (Nat.not_lt.mp hShort)]
    rfl

end Xiu.Bytesio
