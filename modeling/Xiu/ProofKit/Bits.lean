import Mathlib.Data.Nat.Log
import Mathlib.Tactic.Ring

/-! Numbers as bits, most significant bit first, and the Exp-Golomb codes of numbers: as many zeros as
there are bits behind the one that ends them. -/

namespace Xiu.ProofKit

/-- The lowest `k` bits of `n`. -/
def toBits : Nat → Nat → List Bool
  | 0, _ => []
  | k + 1, n => n.testBit k :: toBits k n

/-- The number that bits denote. -/
def ofBits : List Bool → Nat
  | [] => 0
  | bit :: bits => bit.toNat * 2 ^ bits.length + ofBits bits

@[simp] theorem length_toBits (k n : Nat) : (toBits k n).length = k := by
  induction k with
  | zero => rfl
  | succ k ih => rw [toBits, List.length_cons, ih]

theorem ofBits_toBits (k n : Nat) : ofBits (toBits k n) = n % 2 ^ k := by
  induction k with
  | zero => rw [toBits, ofBits, pow_zero, Nat.mod_one]
  | succ k ih =>
    rw [toBits, ofBits, length_toBits, ih, Nat.toNat_testBit, pow_succ, Nat.mod_mul]
    ring

theorem ofBits_lt (bits : List Bool) : ofBits bits < 2 ^ bits.length := by
  induction bits with
  | nil => exact Nat.one_pos
  | cons bit bits ih =>
    have hBit : bit.toNat ≤ 1 := Bool.toNat_le bit
    have hHigh : bit.toNat * 2 ^ bits.length ≤ 1 * 2 ^ bits.length := Nat.mul_le_mul_right _ hBit
    rw [ofBits, List.length_cons, pow_succ]
    omega

theorem toBits_mod (k n : Nat) : toBits k (n % 2 ^ k) = toBits k n := by
  have hLow (j : Nat) (hj : j ≤ k) : toBits j (n % 2 ^ k) = toBits j n := by
    induction j with
    | zero => rfl
    | succ j ih =>
      rw [toBits, toBits, ih (Nat.le_of_succ_le hj), Nat.testBit_mod_two_pow,
        decide_eq_true (Nat.lt_of_succ_le hj), Bool.true_and]
  exact hLow k (Nat.le_refl k)

theorem toBits_add (j k n : Nat) : toBits (j + k) n = toBits j (n / 2 ^ k) ++ toBits k n := by
  induction j with
  | zero => rw [Nat.zero_add, toBits, List.nil_append]
  | succ j ih => rw [Nat.add_right_comm, toBits, ih, toBits, Nat.testBit_div_two_pow,
      List.cons_append]

/-- The bits of a number whose high part and low part are known. -/
theorem toBits_append {j k x y : Nat} (hy : y < 2 ^ k) :
    toBits (j + k) (x * 2 ^ k + y) = toBits j x ++ toBits k y := by
  have hPos : 0 < 2 ^ k := Nat.two_pow_pos k
  have hHigh : (x * 2 ^ k + y) / 2 ^ k = x := by
    rw [Nat.mul_comm, Nat.mul_add_div hPos, Nat.div_eq_of_lt hy, Nat.add_zero]
  have hLow : (x * 2 ^ k + y) % 2 ^ k = y := by
    rw [Nat.mul_comm, Nat.mul_add_mod, Nat.mod_eq_of_lt hy]
  rw [toBits_add, hHigh, ← toBits_mod k (x * 2 ^ k + y), hLow]

/-- What bits add to a number that is read before them. -/
def appendBits (n : Nat) (bits : List Bool) : Nat := n * 2 ^ bits.length + ofBits bits

theorem appendBits_cons (n : Nat) (bit : Bool) (bits : List Bool) :
    appendBits n (bit :: bits) = appendBits (2 * n + bit.toNat) bits := by
  rw [appendBits, appendBits, ofBits, List.length_cons, pow_succ]
  ring

theorem le_appendBits (n : Nat) (bits : List Bool) : n ≤ appendBits n bits :=
  Nat.le_trans (Nat.le_mul_of_pos_right n (Nat.two_pow_pos bits.length)) (Nat.le_add_right _ _)

/-! ### Fields of bits -/

/-- The numbers in fields of these widths. -/
def readFields : List Nat → List Bool → List Nat
  | [], _ => []
  | k :: widths, bits => ofBits (bits.take k) :: readFields widths (bits.drop k)

theorem readFields_cons (k n : Nat) (widths : List Nat) (rest : List Bool) :
    readFields (k :: widths) (toBits k n ++ rest) = n % 2 ^ k :: readFields widths rest := by
  rw [readFields, List.take_left' (length_toBits k n), List.drop_left' (length_toBits k n), ofBits_toBits]

/-- Two fields in one number. -/
theorem readFields_add (j k n : Nat) (widths : List Nat) (rest : List Bool) :
    readFields (j :: k :: widths) (toBits (j + k) n ++ rest) =
      n / 2 ^ k % 2 ^ j :: n % 2 ^ k :: readFields widths rest := by
  rw [toBits_add, List.append_assoc, readFields_cons, readFields_cons]

/-- Fields that come again and again. -/
theorem readFields_flatMap {again : List Nat} {fields : α → List Nat} {bits : α → List Bool}
    (hEach : ∀ a widths rest, readFields (again ++ widths) (bits a ++ rest) =
      fields a ++ readFields widths rest) (l : List α) (widths : List Nat) (rest : List Bool) :
    readFields ((List.replicate l.length again).flatten ++ widths) (l.flatMap bits ++ rest) =
      l.flatMap fields ++ readFields widths rest := by
  induction l with
  | nil => rfl
  | cons a l ih =>
    rw [List.length_cons, List.replicate_succ, List.flatten_cons, List.flatMap_cons, List.flatMap_cons,
      List.append_assoc, List.append_assoc, List.append_assoc, hEach, ih]

/-! ### Zeros and the one that ends them -/

theorem zeros_cases (bits : List Bool) :
    (∃ n, bits = List.replicate n false) ∨
      ∃ zeros rest, bits = List.replicate zeros false ++ true :: rest := by
  induction bits with
  | nil => exact .inl ⟨0, rfl⟩
  | cons bit bits ih =>
    cases bit with
    | true => exact .inr ⟨0, bits, rfl⟩
    | false =>
      rcases ih with ⟨n, rfl⟩ | ⟨zeros, rest, rfl⟩
      · exact .inl ⟨n + 1, rfl⟩
      · exact .inr ⟨zeros + 1, rest, rfl⟩

/-! ### Exp-Golomb codes -/

/-- The code with these bits behind its one. -/
def codeword (suffix : List Bool) : List Bool :=
  List.replicate suffix.length false ++ true :: suffix

/-- The number that the code with these bits denotes. -/
def codeNum (suffix : List Bool) : Nat := 2 ^ suffix.length - 1 + ofBits suffix

/-- The bits behind the one in the code of a number. -/
def suffixOf (n : Nat) : List Bool := toBits (Nat.log2 (n + 1)) (n + 1)

/-- The code of a number. -/
def golomb (n : Nat) : List Bool := codeword (suffixOf n)

theorem codeNum_suffixOf (n : Nat) : codeNum (suffixOf n) = n := by
  have hLow : 2 ^ Nat.log2 (n + 1) ≤ n + 1 := Nat.log2_self_le (Nat.succ_ne_zero n)
  have hHigh : n + 1 < 2 ^ (Nat.log2 (n + 1) + 1) := Nat.lt_log2_self
  rw [pow_succ] at hHigh
  have hRest : (n + 1) % 2 ^ Nat.log2 (n + 1) = n + 1 - 2 ^ Nat.log2 (n + 1) := by
    rw [Nat.mod_eq_sub_mod hLow, Nat.mod_eq_of_lt (by omega)]
  have hPos : 0 < 2 ^ Nat.log2 (n + 1) := Nat.two_pow_pos _
  rw [codeNum, suffixOf, length_toBits, ofBits_toBits, hRest]
  omega

theorem length_suffixOf_lt {n k : Nat} (h : n + 1 < 2 ^ k) : (suffixOf n).length < k := by
  rw [suffixOf, length_toBits]
  exact (Nat.log2_lt (Nat.succ_ne_zero n)).mpr h

/-- The number of a code that is signed: 0, 1, -1, 2, -2 and so on. -/
def signed (n : Nat) : Int := if n % 2 = 0 then -((n + 1) / 2 : Nat) else ((n + 1) / 2 : Nat)

/-- The code of a signed number. -/
def unsigned (k : Int) : Nat := if 0 < k then 2 * k.toNat - 1 else 2 * (-k).toNat

theorem signed_unsigned (k : Int) : signed (unsigned k) = k := by
  rw [signed, unsigned]
  split <;> split <;> omega

end Xiu.ProofKit
