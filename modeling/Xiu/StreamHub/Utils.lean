import Mathlib.Algebra.Group.Nat.Defs
import Mathlib.Tactic.Common

/-! The identifiers of sessions, of `library/streamhub/src/utils.rs`. -/

namespace Xiu.StreamHub

inductive RandomDigitCount where
  | zero
  | one
  | two
  | three
  | four
  | five
  | six
  deriving DecidableEq

namespace RandomDigitCount

def toNat : RandomDigitCount → Nat
  | zero => 0
  | one => 1
  | two => 2
  | three => 3
  | four => 4
  | five => 5
  | six => 6

theorem toNat_le (count : RandomDigitCount) : count.toNat ≤ 6 := by
  cases count <;> decide

end RandomDigitCount

def u8ToEnum : Nat → RandomDigitCount
  | 1 => .one
  | 2 => .two
  | 3 => .three
  | 4 => .four
  | 5 => .five
  | 6 => .six
  | _ => .zero


structure Uuid where
  value : Vector Char 16
  randomCount : RandomDigitCount
  deriving DecidableEq

namespace Uuid

/-- `Uuid::from_str2`: every character has a place, since a text has no more characters than
bytes. -/
def fromStr2 (uuid : String) : Option Uuid :=
  let length := uuid.utf8ByteSize
  if ¬(10 ≤ length ∧ length ≤ 16) then
    none
  else
    some ⟨Vector.ofFn fun i => (uuid.toList[i.val]?).getD '\x00', u8ToEnum (length - 10)⟩

/-- `Uuid::new` in a Unix second, with the digits that the random generator draws: the first ten
digits of the second, and then as many random ones as are asked for. -/
def new (randomDigitCount : RandomDigitCount) (seconds : Nat) (drawn : Nat → Fin 10) : Uuid :=
  ⟨Vector.ofFn fun i =>
      if i.val < 10 then ((Nat.toDigits 10 seconds)[i.val]?).getD '\x00'
      else if i.val - 10 < randomDigitCount.toNat then Nat.digitChar (drawn (i.val - 10))
      else '\x00',
    randomDigitCount⟩

/-- No random digit is asked for. -/
def noDigits : Nat → Fin 10 := fun _ => 0

/-- How an identifier is written. -/
def display (uuid : Uuid) : String :=
  String.ofList (uuid.value.toList.take (10 + uuid.randomCount.toNat))

theorem new_value (count : RandomDigitCount) (seconds : Nat) (drawn : Nat → Fin 10) (i : Nat)
    (hi : i < 16) : (new count seconds drawn).value[i] =
      if i < 10 then ((Nat.toDigits 10 seconds)[i]?).getD '\x00'
      else if i - 10 < count.toNat then Nat.digitChar (drawn (i - 10))
      else '\x00' := by
  simp [new]

theorem digit_ne_nul {seconds : Nat} {c : Char} (h : c ∈ Nat.toDigits 10 seconds) : c ≠ '\x00' := by
  rintro rfl
  exact absurd (Nat.isDigit_of_mem_toDigits (by decide) (by decide) h) (by decide)

theorem digitChar_inj {a b : Fin 10} (h : Nat.digitChar a = Nat.digitChar b) : a = b := by
  have hNat := congrArg Char.toNat h
  rw [Nat.toNat_digitChar_of_lt_ten a.isLt, Nat.toNat_digitChar_of_lt_ten b.isLt] at hNat
  exact Fin.ext (by omega)

/-- The digits of a second of at most ten digits, from the first ten places of an identifier. -/
theorem digits_of_places {s s' : Nat} (hs : s < 10 ^ 10) (hs' : s' < 10 ^ 10)
    (h : ∀ i < 10, ((Nat.toDigits 10 s)[i]?).getD '\x00' = ((Nat.toDigits 10 s')[i]?).getD '\x00') :
    s = s' := by
  have hLength := (Nat.length_toDigits_le_iff (by decide) (by decide)).mpr hs
  have hLength' := (Nat.length_toDigits_le_iff (by decide) (by decide)).mpr hs'
  have hDigits : Nat.toDigits 10 s = Nat.toDigits 10 s' := by
    apply List.ext_getElem?
    intro i
    by_cases hi : i < 10
    · have hPlace := h i hi
      cases hA : (Nat.toDigits 10 s)[i]? <;> cases hB : (Nat.toDigits 10 s')[i]?
      · rfl
      · rw [hA, hB] at hPlace
        exact absurd hPlace.symm (digit_ne_nul (List.mem_of_getElem? hB))
      · rw [hA, hB] at hPlace
        exact absurd hPlace (digit_ne_nul (List.mem_of_getElem? hA))
      · rw [hA, hB] at hPlace
        exact congrArg some hPlace
    · rw [List.getElem?_eq_none (by omega), List.getElem?_eq_none (by omega)]
  rw [← Nat.ofDigitChars_toDigits (b := 10) (n := s) (by decide) (by decide), hDigits,
    Nat.ofDigitChars_toDigits (by decide) (by decide)]

/-- Two sessions draw the same identifier if and only if they ask for the same number of random digits
in the same second and get the same ones. -/
theorem new_eq_iff {count count' : RandomDigitCount} {s s' : Nat} {drawn drawn' : Nat → Fin 10}
    (hs : s < 10 ^ 10) (hs' : s' < 10 ^ 10) :
    new count s drawn = new count' s' drawn' ↔
      count = count' ∧ s = s' ∧ ∀ i < count.toNat, drawn i = drawn' i := by
  constructor
  · intro h
    have hCount : count = count' := congrArg Uuid.randomCount h
    subst hCount
    have hPlaces : ∀ i, (hi : i < 16) → (new count s drawn).value[i] = (new count s' drawn').value[i] :=
      fun i hi => by rw [h]
    refine ⟨rfl, digits_of_places hs hs' fun i hi => ?_, fun i hi => ?_⟩
    · have hPlace := hPlaces i (by omega)
      simpa only [new_value, hi, if_true] using hPlace
    · have hLe := count.toNat_le
      have hPlace := hPlaces (10 + i) (by omega)
      have hNot : ¬ 10 + i < 10 := by omega
      simp only [new_value, hNot, if_false, Nat.add_sub_cancel_left, hi, if_true] at hPlace
      exact digitChar_inj hPlace
  · rintro ⟨rfl, rfl, hDrawn⟩
    simp only [new, mk.injEq, and_true]
    congr 1
    funext i
    split
    · rfl
    · split
      · rename_i hi
        rw [hDrawn _ hi]
      · rfl

/-- The text of an identifier. -/
def toText (id : Uuid) : String :=
  String.ofList (id.value.toList.take (10 + id.randomCount.toNat))

end Uuid

end Xiu.StreamHub
