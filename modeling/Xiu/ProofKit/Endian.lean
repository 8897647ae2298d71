import Mathlib.Data.Nat.Digits.Defs
import Mathlib.Tactic.Ring

/-! Numbers as fixed numbers of bytes, least or most significant byte first. -/

namespace Xiu.ProofKit

/-- What holds of all patterns of eight bits holds of all bytes, so that it can be decided. -/
theorem forall_byte {P : UInt8 → Prop} (h : ∀ b : BitVec 8, P ⟨b⟩) (x : UInt8) : P x :=
  h x.toBitVec

/-- The number that bytes denote, least significant byte first. -/
def ofLE (bytes : List UInt8) : Nat := Nat.ofDigits 256 (bytes.map UInt8.toNat)

/-- The number that bytes denote, most significant byte first. -/
def ofBE (bytes : List UInt8) : Nat := ofLE bytes.reverse

/-- The lowest `k` bytes of `n`, least significant first. -/
def toLE : Nat → Nat → List UInt8
  | 0, _ => []
  | k + 1, n => UInt8.ofNat n :: toLE k (n / 256)

/-- The lowest `k` bytes of `n`, most significant first. -/
def toBE (k n : Nat) : List UInt8 := (toLE k n).reverse

@[simp] theorem length_toLE (k n : Nat) : (toLE k n).length = k := by
  induction k generalizing n with
  | zero => rfl
  | succ k ih => simp [toLE, ih]

@[simp] theorem length_toBE (k n : Nat) : (toBE k n).length = k := by simp [toBE]

theorem ofLE_cons (b : UInt8) (bytes : List UInt8) :
    ofLE (b :: bytes) = b.toNat + 256 * ofLE bytes := by
  simp [ofLE, Nat.ofDigits_cons]

theorem ofLE_toLE (k n : Nat) : ofLE (toLE k n) = n % 256 ^ k := by
  induction k generalizing n with
  | zero => simp [toLE, ofLE, Nat.mod_one]
  | succ k ih =>
    rw [toLE, ofLE_cons, ih, UInt8.toNat_ofNat', pow_succ' 256 k, Nat.mod_mul]

theorem ofBE_toBE (k n : Nat) : ofBE (toBE k n) = n % 256 ^ k := by
  rw [ofBE, toBE, List.reverse_reverse, ofLE_toLE]

theorem ofLE_lt (bytes : List UInt8) : ofLE bytes < 256 ^ bytes.length := by
  induction bytes with
  | nil => simp [ofLE]
  | cons b bytes ih =>
    have hb := b.toNat_lt
    rw [ofLE_cons, List.length_cons, pow_succ]
    omega

theorem ofBE_lt (bytes : List UInt8) : ofBE bytes < 256 ^ bytes.length := by
  simpa [ofBE] using ofLE_lt bytes.reverse

/-- The bytes that denote a number, from the number. -/
theorem toLE_ofLE (bytes : List UInt8) : toLE bytes.length (ofLE bytes) = bytes := by
  induction bytes with
  | nil => rfl
  | cons b bytes ih =>
    have hDiv : (b.toNat + 256 * ofLE bytes) / 256 = ofLE bytes := by
      have hByte := b.toNat_lt
      omega
    have hLow : UInt8.ofNat (b.toNat + 256 * ofLE bytes) = b := by
      rw [← UInt8.toNat_inj, UInt8.toNat_ofNat']
      have hByte := b.toNat_lt
      omega
    rw [List.length_cons, ofLE_cons, toLE, hDiv, hLow, ih]

theorem toBE_ofBE (bytes : List UInt8) : toBE bytes.length (ofBE bytes) = bytes := by
  rw [toBE, ofBE, ← List.length_reverse, toLE_ofLE, List.reverse_reverse]

/-- A number of two bytes that is put together from them. -/
theorem toNat_shift_or (a b : UInt8) :
    (a.toUInt16 <<< (8 : UInt16) ||| b.toUInt16).toNat = 256 * a.toNat + b.toNat := by
  have ha := a.toNat_lt
  have hb := b.toNat_lt
  rw [UInt16.toNat_or, UInt16.toNat_shiftLeft, UInt8.toNat_toUInt16, UInt8.toNat_toUInt16]
  have hShift : a.toNat <<< ((8 : UInt16).toNat % 16) = 2 ^ 8 * a.toNat := by
    rw [Nat.shiftLeft_eq, Nat.mul_comm]; rfl
  rw [hShift, Nat.mod_eq_of_lt (by omega), ← Nat.two_pow_add_eq_or_of_lt (by omega)]

theorem ofLE_append (bytes bytes' : List UInt8) :
    ofLE (bytes ++ bytes') = ofLE bytes + 256 ^ bytes.length * ofLE bytes' := by
  simp [ofLE, Nat.ofDigits_append]

theorem ofBE_cons (b : UInt8) (bytes : List UInt8) :
    ofBE (b :: bytes) = b.toNat * 256 ^ bytes.length + ofBE bytes := by
  rw [ofBE, List.reverse_cons, ofLE_append, List.length_reverse, ofLE_cons]
  simp only [ofLE, ofBE, List.map_nil, Nat.ofDigits_nil]
  ring

theorem toLE_succ (k n : Nat) : toLE (k + 1) n = toLE k n ++ [UInt8.ofNat (n / 256 ^ k)] := by
  induction k generalizing n with
  | zero => simp [toLE]
  | succ k ih => rw [toLE, ih, toLE, Nat.div_div_eq_div_mul, pow_succ' 256 k, List.cons_append]

theorem toBE_succ (k n : Nat) : toBE (k + 1) n = UInt8.ofNat (n / 256 ^ k) :: toBE k n := by
  rw [toBE, toLE_succ, List.reverse_concat, toBE]

end Xiu.ProofKit
